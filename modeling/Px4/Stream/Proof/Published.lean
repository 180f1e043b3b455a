import Px4.Stream.Published
import Px4.Stream.Proof.Ring
import Px4.Stream.Proof.Startup
import Px4.Ts.Proof.Continuity
import Mathlib.Data.List.Induction

/-!
# Continuity errors of the published stream

The session's checker `S` sees every packet, the client's fresh checker `F` only the published ones.
`Synced` says how they stay together while the startup rule withholds packets of a PID: of an
established PID they hold the same state; of any other PID the client has seen packets without
payload at most.

* `synced_packet` — one packet: withheld, or published with the same verdict from both checkers
  unless it is of a PID not yet established and does not continue what was published of it.
* `published_errors_iff` — no error of the published stream is hidden, at every step of a run,
  exactly when every step of the run meets `PublishCond`.
-/

namespace Px4.Stream

open Px4.Ts Px4.Ts.Continuity

/-! ## Two checkers -/

/-- What the two checkers know of one PID. -/
def PidSynced (state : StartupContinuity) (S F : PidState) : Prop :=
  if state.established then S = F
  else (F.seen = true → F.hasPayload = false) ∧
    (state.seen = true → S.seen = true → S.counter = state.counter ∨
      F.seen = true ∧ F.counter = S.counter)

/-- The session's checker and startup continuity against the client's checker. -/
structure Synced (g : Startup) (F : ContinuityChecker) : Prop where
  epoch : g.checker.untrustedEpoch = F.untrustedEpoch
  pid : ∀ pid, PidSynced (g.continuity pid) (g.checker.states pid) (F.states pid)

section

variable {g : Startup} {F c : ContinuityChecker} {packet : Packet} {p : List UInt8}

theorem Synced.invalidate (h : Synced g F) :
    Synced { g with checker := g.checker.invalidateDuplicateAdjacency }
      F.invalidateDuplicateAdjacency := by
  have hepoch := h.epoch
  unfold ContinuityChecker.invalidateDuplicateAdjacency
  by_cases hmax : F.untrustedEpoch = kMaxEpoch
  · rw [if_pos (hepoch.trans hmax), if_pos hmax]
    refine ⟨rfl, fun pid => ?_⟩
    have hp := h.pid pid
    simp only [PidSynced] at hp ⊢
    split at hp
    · rename_i he
      simp only [he, if_true, hp]
    · rename_i he
      rw [if_neg he]
      exact ⟨fun _ => trivial, hp.2⟩
  · rw [if_neg (hepoch ▸ hmax), if_neg hmax]
    exact ⟨by rw [hepoch], h.pid⟩

/-- The state of a PID after a trusted packet. -/
def stateAfter (c : ContinuityChecker) (p : List UInt8) : PidState :=
  ⟨c.untrustedEpoch, p, counterOf p, true, hasPayload p,
    (c.judge (c.states (pidOf p)) p (counterOf p) (hasPayload p) (signalsDiscontinuity p)
      (hasPcr p)).2⟩

/-- The verdict on a trusted packet. -/
def kindOf (c : ContinuityChecker) (p : List UInt8) : ContinuityKind :=
  (c.judge (c.states (pidOf p)) p (counterOf p) (hasPayload p) (signalsDiscontinuity p)
    (hasPcr p)).1

theorem observe_trusted (hc : classify (some p) = .trusted) (c : ContinuityChecker) :
    c.observe (some p) =
      (⟨kindOf c p, pidOf p, counterOf p, hasPayload p, signalsDiscontinuity p⟩,
        { c with states := Function.update c.states (pidOf p) (stateAfter c p) }) := by
  have hspec := observe_spec c (some p)
  rw [hc] at hspec
  obtain ⟨q, hq, -, heq⟩ := hspec
  cases hq
  exact heq

theorem kindOf_verdict (c : ContinuityChecker) (p : List UInt8) :
    kindOf c p ≠ .nullPacket ∧ kindOf c p ≠ .transportError ∧ kindOf c p ≠ .invalidPacket := by
  simp only [kindOf, ContinuityChecker.judge]
  split
  · simp
  split
  · simp
  split
  · simp
  by_cases hc : counterOf p =
      ((c.states (pidOf p)).counter + if hasPayload p then 1 else 0) % 16
  · rw [if_pos hc]; simp
  · rw [if_neg hc]; simp

/-- `observe_continuity` of a trusted packet. -/
theorem observeContinuity_trusted (hc : classify (some packet.bytes) = .trusted) (g : Startup) :
    observeContinuity packet g =
      let pid := pidOf packet.bytes
      let counter := counterOf packet.bytes
      let state := g.continuity pid
      let g' := { g with checker := (g.checker.observe (some packet.bytes)).2 }
      let set (state : StartupContinuity) := Function.update g.continuity pid state
      if signalsDiscontinuity packet.bytes then
        ({ g' with continuity := set ⟨true, true, counter⟩, startupContinuityEstablished := true },
          .clean)
      else if state.established then
        (g', if kindOf g.checker packet.bytes = .error then .fault else .clean)
      else if !hasPayload packet.bytes then (g', .clean)
      else if !state.seen then
        ({ g' with continuity := set { state with seen := true, counter } }, .boundary)
      else if counter ≠ (state.counter + 1) % 16 then
        ({ g' with continuity := set { state with counter } }, .boundary)
      else
        ({ g' with
          continuity := set { state with counter, established := true }
          startupContinuityEstablished := true }, .clean) := by
  obtain ⟨h1, h2, h3⟩ := kindOf_verdict g.checker packet.bytes
  simp only [observeContinuity, observe_trusted hc, h1, h2, h3, or_self, if_false]

/-! ### Verdicts -/

theorem judge_repeated_eq (c : ContinuityChecker) (p : List UInt8) :
    (stateAfter c p).repeated = (!signalsDiscontinuity p && (c.states (pidOf p)).seen &&
      hasPayload p && counterOf p == (c.states (pidOf p)).counter) := by
  simp only [stateAfter, ContinuityChecker.judge]
  cases signalsDiscontinuity p with
  | true => rfl
  | false =>
    cases (c.states (pidOf p)).seen with
    | false => rfl
    | true =>
      simp only [Bool.false_eq_true, if_false, Bool.not_true, Bool.not_false, Bool.true_and]
      split <;> rfl

theorem repeated_of_ne
    (h : (c.states (pidOf p)).seen = true → counterOf p ≠ (c.states (pidOf p)).counter) :
    (stateAfter c p).repeated = false := by
  rw [judge_repeated_eq]
  cases hseen : (c.states (pidOf p)).seen with
  | false => simp
  | true => simp [h hseen]

/-- The client's verdict on a packet of a PID of which it has seen no payload. -/
theorem kindOf_error_iff (hd : signalsDiscontinuity p = false)
    (hp : (c.states (pidOf p)).seen = true → (c.states (pidOf p)).hasPayload = false) :
    kindOf c p = .error ↔ (c.states (pidOf p)).seen = true ∧
      counterOf p ≠ ((c.states (pidOf p)).counter + if hasPayload p then 1 else 0) % 16 := by
  simp only [kindOf, ContinuityChecker.judge, hd, Bool.false_eq_true, if_false]
  cases hs : (c.states (pidOf p)).seen with
  | false => simp
  | true =>
    simp only [hp hs, Bool.and_false, Bool.false_and, Bool.false_eq_true, if_false,
      Bool.not_true, true_and]
    by_cases hc : counterOf p =
        ((c.states (pidOf p)).counter + if hasPayload p then 1 else 0) % 16
    · rw [if_pos hc]; simp [hc]
    · rw [if_neg hc]; simp [hc]

/-- A checker judges by the state of the PID and its own epoch. -/
theorem judged_alike {S : ContinuityChecker} (he : S.untrustedEpoch = F.untrustedEpoch)
    (hs : S.states (pidOf p) = F.states (pidOf p)) :
    kindOf S p = kindOf F p ∧ stateAfter S p = stateAfter F p := by
  simp only [kindOf, stateAfter, ContinuityChecker.judge, he, hs, and_self]

theorem stateAfter_eq {S : ContinuityChecker} (he : S.untrustedEpoch = F.untrustedEpoch)
    (hr : (stateAfter S p).repeated = (stateAfter F p).repeated) :
    stateAfter S p = stateAfter F p := by
  simp only [stateAfter] at hr ⊢
  rw [he, hr]

/-! ### One packet -/

/-- The client's checker would find that the packet continues its PID. -/
def ContinuesOn (F : ContinuityChecker) (p : List UInt8) : Prop :=
  (F.states (pidOf p)).seen = true →
    counterOf p = ((F.states (pidOf p)).counter + if hasPayload p then 1 else 0) % 16

/-- What a packet does to the two checkers. -/
structure PacketSynced (g : Startup) (F : ContinuityChecker) (packet : Packet) : Prop where
  withheld : (observeContinuity packet g).2 = .boundary → Synced (observeContinuity packet g).1 F
  published : (observeContinuity packet g).2 ≠ .boundary →
    (unestablished g packet = true → ContinuesOn F packet.bytes) →
    Synced (observeContinuity packet g).1 (F.observe (some packet.bytes)).2 ∧
      ((F.observe (some packet.bytes)).1.kind = .error ↔
        (observeContinuity packet g).2 = .fault)
  hidden : (observeContinuity packet g).2 ≠ .boundary →
    ¬(unestablished g packet = true → ContinuesOn F packet.bytes) →
    (F.observe (some packet.bytes)).1.kind = .error ∧ (observeContinuity packet g).2 = .clean

/-- A packet that is published and is not of `unestablished`. -/
theorem PacketSynced.published_only (hun : unestablished g packet = false)
    (hs : Synced (observeContinuity packet g).1 (F.observe (some packet.bytes)).2)
    (hb : (observeContinuity packet g).2 ≠ .boundary)
    (hk : (F.observe (some packet.bytes)).1.kind = .error ↔
      (observeContinuity packet g).2 = .fault) : PacketSynced g F packet := by
  refine ⟨fun hb' => absurd hb' hb, fun _ _ => ⟨hs, hk⟩, fun _ hn => absurd ?_ hn⟩
  intro hu
  rw [hun] at hu
  cases hu

/-- A packet that is not trusted is published, and concerns no PID. -/
theorem synced_untrusted (h : Synced g F) (hc : classify (some packet.bytes) ≠ .trusted) :
    PacketSynced g F packet := by
  have hun : unestablished g packet = false := by simp [unestablished, hc]
  have hS := observe_spec g.checker (some packet.bytes)
  have hF := observe_spec F (some packet.bytes)
  have hclean (hkind : (g.checker.observe (some packet.bytes)).1.kind = .nullPacket ∨
      (g.checker.observe (some packet.bytes)).1.kind = .transportError ∨
      (g.checker.observe (some packet.bytes)).1.kind = .invalidPacket) :
      observeContinuity packet g =
        ({ g with checker := (g.checker.observe (some packet.bytes)).2 }, .clean) := by
    simp only [observeContinuity, if_pos hkind]
  have hall (heq : observeContinuity packet g =
        ({ g with checker := (g.checker.observe (some packet.bytes)).2 }, .clean))
      (hs : Synced { g with checker := (g.checker.observe (some packet.bytes)).2 }
        (F.observe (some packet.bytes)).2)
      (hk : (F.observe (some packet.bytes)).1.kind ≠ .error) : PacketSynced g F packet := by
    apply PacketSynced.published_only hun
    · rw [heq]; exact hs
    · rw [heq]; simp
    · rw [heq]; exact iff_of_false hk (by rintro ⟨⟩)
  cases hcl : classify (some packet.bytes) with
  | trusted => exact absurd hcl hc
  | malformed =>
    rw [hcl] at hS hF
    refine hall (hclean (.inr (.inr hS.1))) ?_ (by rw [hF.1]; decide)
    rw [hS.2, hF.2]
    exact h.invalidate
  | transportError =>
    rw [hcl] at hS hF
    refine hall (hclean (.inr (.inl hS.1))) ?_ (by rw [hF.1]; decide)
    rw [hS.2, hF.2]
    exact h.invalidate
  | null =>
    rw [hcl] at hS hF
    refine hall (hclean (.inl hS.1)) ?_ (by rw [hF.1]; decide)
    rw [hS.2, hF.2]
    exact h

theorem Synced.update (h : Synced g F) (pid : Nat) {continuity : Nat → StartupContinuity}
    {S F' : ContinuityChecker} {established : Bool}
    (hS : S.untrustedEpoch = g.checker.untrustedEpoch) (hF : F'.untrustedEpoch = F.untrustedEpoch)
    (hother : ∀ pid', pid' ≠ pid → continuity pid' = g.continuity pid' ∧
      S.states pid' = g.checker.states pid' ∧ F'.states pid' = F.states pid')
    (hpid : PidSynced (continuity pid) (S.states pid) (F'.states pid)) :
    Synced (g.withContinuity S continuity established) F' := by
  refine ⟨by rw [hF, ← h.epoch]; exact hS, fun pid' => ?_⟩
  by_cases heq : pid' = pid
  · rw [heq]; exact hpid
  · obtain ⟨h1, h2, h3⟩ := hother pid' heq
    show PidSynced (continuity pid') (S.states pid') (F'.states pid')
    rw [h1, h2, h3]
    exact h.pid pid'

/-- A trusted packet of an established PID, or one that establishes it by its marker. -/
theorem synced_established (h : Synced g F) (hc : classify (some packet.bytes) = .trusted)
    (he : signalsDiscontinuity packet.bytes = true ∨
      (g.continuity (pidOf packet.bytes)).established = true) : PacketSynced g F packet := by
  have hun : unestablished g packet = false := by
    rcases he with he | he <;> simp [unestablished, he]
  have hobs := observeContinuity_trusted hc g
  cases hd : signalsDiscontinuity packet.bytes with
  | true =>
    simp only [hd, if_true] at hobs
    have hrep (c : ContinuityChecker) : (stateAfter c packet.bytes).repeated = false := by
      rw [judge_repeated_eq, hd]; rfl
    have hkind : kindOf F packet.bytes = .discontinuity := by
      simp [kindOf, ContinuityChecker.judge, hd]
    refine PacketSynced.published_only hun ?_ (by rw [hobs]; simp) ?_
    · rw [hobs, observe_trusted hc, observe_trusted hc]
      refine h.update (pidOf packet.bytes) rfl rfl (fun pid' hne => ?_) ?_
      · exact ⟨Function.update_of_ne hne _ _, Function.update_of_ne hne _ _,
          Function.update_of_ne hne _ _⟩
      · simp only [Function.update_self, PidSynced, if_true]
        exact stateAfter_eq h.epoch ((hrep _).trans (hrep _).symm)
    · rw [hobs, observe_trusted hc, hkind]
      exact iff_of_false nofun nofun
  | false =>
    have hest : (g.continuity (pidOf packet.bytes)).established = true := by simpa [hd] using he
    simp only [hd, hest, Bool.false_eq_true, if_false, if_true] at hobs
    have hstate : g.checker.states (pidOf packet.bytes) = F.states (pidOf packet.bytes) := by
      simpa [PidSynced, hest] using h.pid (pidOf packet.bytes)
    obtain ⟨hkind, hafter⟩ := judged_alike (p := packet.bytes) h.epoch hstate
    apply PacketSynced.published_only hun
    · rw [hobs, observe_trusted hc, observe_trusted hc]
      refine h.update (pidOf packet.bytes) rfl rfl (fun pid' hne => ?_) ?_
      · exact ⟨rfl, Function.update_of_ne hne _ _, Function.update_of_ne hne _ _⟩
      · simp only [Function.update_self, PidSynced, hest, if_true]
        exact hafter
    · rw [hobs]
      simp only
      split <;> simp
    · rw [hobs, observe_trusted hc, hkind]
      simp only
      split <;> simp_all

/-- A packet that is published of a PID not yet established: the client's checker finds an error
exactly when the packet does not continue what it has seen. -/
theorem synced_unestablished (h : Synced g F) (hc : classify (some packet.bytes) = .trusted)
    (hd : signalsDiscontinuity packet.bytes = false)
    (he : (g.continuity (pidOf packet.bytes)).established = false)
    (hun : unestablished g packet = true) (hclean : (observeContinuity packet g).2 = .clean)
    (hsync : ContinuesOn F packet.bytes →
      Synced (observeContinuity packet g).1 (F.observe (some packet.bytes)).2) :
    PacketSynced g F packet := by
  have hpid := h.pid (pidOf packet.bytes)
  simp only [PidSynced, he, Bool.false_eq_true, if_false] at hpid
  obtain ⟨hpayload, -⟩ := hpid
  have hkind : (F.observe (some packet.bytes)).1.kind = .error ↔ ¬ContinuesOn F packet.bytes := by
    rw [observe_trusted hc, ContinuesOn, Classical.not_imp]
    exact kindOf_error_iff hd hpayload
  refine ⟨fun hb => ?_, fun _ hcont => ⟨hsync (hcont hun), ?_⟩, fun _ hn => ⟨?_, hclean⟩⟩
  · rw [hclean] at hb
    cases hb
  · rw [hkind, hclean]
    exact iff_of_false (not_not.mpr (hcont hun)) nofun
  · rw [hkind]
    intro hcont
    exact hn fun _ => hcont

/-- A trusted packet without payload, of a PID not yet established. -/
theorem synced_adaptation (h : Synced g F) (hc : classify (some packet.bytes) = .trusted)
    (hd : signalsDiscontinuity packet.bytes = false)
    (he : (g.continuity (pidOf packet.bytes)).established = false)
    (hp : hasPayload packet.bytes = false) : PacketSynced g F packet := by
  have hun : unestablished g packet = true := by simp [unestablished, hc, hd, he, hp]
  have hobs := observeContinuity_trusted hc g
  simp only [hd, he, hp, Bool.false_eq_true, if_false, Bool.not_false, if_true] at hobs
  apply synced_unestablished h hc hd he hun (by rw [hobs])
  intro _
  rw [hobs, observe_trusted hc, observe_trusted hc]
  refine h.update (pidOf packet.bytes) rfl rfl (fun pid' hne => ?_) ?_
  · exact ⟨rfl, Function.update_of_ne hne _ _, Function.update_of_ne hne _ _⟩
  · simp only [Function.update_self, PidSynced, he, Bool.false_eq_true, if_false]
    exact ⟨fun _ => hp, fun _ _ => .inr ⟨rfl, rfl⟩⟩

/-- A payload packet that the startup rule withholds. -/
theorem synced_boundary (h : Synced g F) (hc : classify (some packet.bytes) = .trusted)
    (hd : signalsDiscontinuity packet.bytes = false)
    (he : (g.continuity (pidOf packet.bytes)).established = false)
    (hp : hasPayload packet.bytes = true)
    (hb : (g.continuity (pidOf packet.bytes)).seen = false ∨
      counterOf packet.bytes ≠ ((g.continuity (pidOf packet.bytes)).counter + 1) % 16) :
    PacketSynced g F packet := by
  have hpid := h.pid (pidOf packet.bytes)
  simp only [PidSynced, he, Bool.false_eq_true, if_false] at hpid
  have hobs := observeContinuity_trusted hc g
  simp only [hd, he, hp, Bool.false_eq_true, if_false, Bool.not_true] at hobs
  have hboundary : ∃ seen, observeContinuity packet g = (g.withContinuity
      (g.checker.observe (some packet.bytes)).2
      (Function.update g.continuity (pidOf packet.bytes)
        ⟨seen, false, counterOf packet.bytes⟩) g.startupContinuityEstablished, .boundary) := by
    cases hs : (g.continuity (pidOf packet.bytes)).seen with
    | false =>
      rw [hs] at hobs
      exact ⟨true, by simpa [he, Startup.withContinuity] using hobs⟩
    | true =>
      have hne := hb.resolve_left (by simp [hs])
      rw [hs, if_neg (by simp), if_pos hne] at hobs
      exact ⟨true, by simpa [he, hs, Startup.withContinuity] using hobs⟩
  obtain ⟨seen, heq⟩ := hboundary
  have hnot : ¬(observeContinuity packet g).2 ≠ .boundary := by rw [heq]; simp
  refine ⟨fun _ => ?_, fun hn => absurd hn hnot, fun hn => absurd hn hnot⟩
  rw [heq, observe_trusted hc]
  refine h.update (pidOf packet.bytes) rfl rfl (fun pid' hne => ?_) ?_
  · exact ⟨Function.update_of_ne hne _ _, Function.update_of_ne hne _ _, rfl⟩
  · simp only [Function.update_self, PidSynced, Bool.false_eq_true, if_false]
    exact ⟨hpid.1, fun _ _ => .inl rfl⟩

/-- The payload packet that establishes its PID by a consecutive transition. -/
theorem synced_transition (h : Synced g F) (hc : classify (some packet.bytes) = .trusted)
    (hd : signalsDiscontinuity packet.bytes = false)
    (he : (g.continuity (pidOf packet.bytes)).established = false)
    (hp : hasPayload packet.bytes = true)
    (hs : (g.continuity (pidOf packet.bytes)).seen = true)
    (hnext : counterOf packet.bytes = ((g.continuity (pidOf packet.bytes)).counter + 1) % 16) :
    PacketSynced g F packet := by
  have hun : unestablished g packet = true := by simp [unestablished, hc, hd, he, hp, hs, hnext]
  have hpid := h.pid (pidOf packet.bytes)
  simp only [PidSynced, he, Bool.false_eq_true, if_false] at hpid
  have hobs := observeContinuity_trusted hc g
  simp only [hd, he, hp, hs, Bool.false_eq_true, if_false, Bool.not_true] at hobs
  rw [if_neg (by simpa using hnext)] at hobs
  apply synced_unestablished h hc hd he hun (by rw [hobs])
  intro hcont
  simp only [ContinuesOn, hp, if_true] at hcont
  -- neither checker takes the packet for a repetition, so they agree from here on
  have hF : (stateAfter F packet.bytes).repeated = false := by
    apply repeated_of_ne
    intro hseen
    have := hcont hseen
    omega
  have hS : (stateAfter g.checker packet.bytes).repeated = false := by
    apply repeated_of_ne
    intro hseen
    rcases hpid.2 hs hseen with heq | ⟨hFs, heq⟩
    · omega
    · have := hcont hFs
      omega
  rw [hobs, observe_trusted hc, observe_trusted hc]
  refine h.update (pidOf packet.bytes) rfl rfl (fun pid' hne => ?_) ?_
  · exact ⟨Function.update_of_ne hne _ _, Function.update_of_ne hne _ _,
      Function.update_of_ne hne _ _⟩
  · simp only [Function.update_self, PidSynced, if_true]
    exact stateAfter_eq h.epoch (hS.trans hF.symm)

/-- **One packet** and the two checkers. -/
theorem synced_packet (h : Synced g F) (packet : Packet) : PacketSynced g F packet := by
  by_cases hc : classify (some packet.bytes) = .trusted
  · cases hd : signalsDiscontinuity packet.bytes with
    | true => exact synced_established h hc (.inl hd)
    | false =>
      cases he : (g.continuity (pidOf packet.bytes)).established with
      | true => exact synced_established h hc (.inr he)
      | false =>
        cases hp : hasPayload packet.bytes with
        | false => exact synced_adaptation h hc hd he hp
        | true =>
          by_cases hb : (g.continuity (pidOf packet.bytes)).seen = false ∨
              counterOf packet.bytes ≠ ((g.continuity (pidOf packet.bytes)).counter + 1) % 16
          · exact synced_boundary h hc hd he hp hb
          · simp only [not_or, Bool.not_eq_false, not_not] at hb
            exact synced_transition h hc hd he hp hb.1 hb.2
  · exact synced_untrusted h hc

/-- A packet of `unestablished` is not withheld. -/
theorem unestablished_published (h : unestablished g packet = true) :
    (observeContinuity packet g).2 ≠ .boundary := by
  simp only [unestablished, Bool.and_eq_true, Bool.or_eq_true, beq_iff_eq, Bool.not_eq_true']
    at h
  obtain ⟨⟨⟨hc, hd⟩, he⟩, hp | ⟨hs, hnext⟩⟩ := h
  · simp [observeContinuity_trusted hc, hd, he, hp]
  · cases hp : hasPayload packet.bytes with
    | false => simp [observeContinuity_trusted hc, hd, he, hp]
    | true => simp [observeContinuity_trusted hc, hd, he, hp, hs, hnext]

/-- Two checkers that start together. -/
theorem synced_fresh (hS : g.checker.untrustedEpoch = 0)
    (hseen : ∀ pid, g.continuity pid = {}) : Synced g {} := by
  refine ⟨hS, fun pid => ?_⟩
  simp only [PidSynced, hseen, Bool.false_eq_true, if_false]
  exact ⟨nofun, nofun⟩

end

/-! ## The replay -/

theorem replay_append (put : List Packet) (packet : Packet) :
    replay (put ++ [packet]) = replayPacket (replay put) packet := by
  simp only [replay, List.foldl_append, List.foldl_cons, List.foldl_nil]

theorem lastOf_append (pid : Nat) (put : List Packet) (packet : Packet) :
    lastOf pid (put ++ [packet]) =
      if (Continuity.Op.observe (some packet.bytes)).trustedOn pid then some packet
      else lastOf pid put := by
  simp only [lastOf, List.reverse_append, List.reverse_cons, List.reverse_nil, List.nil_append,
    List.cons_append, List.find?_cons]
  cases (Continuity.Op.observe (some packet.bytes)).trustedOn pid <;> rfl

/-- The client's checker holds the last packet of every PID. -/
theorem replay_baseline (pid : Nat) (put : List Packet) :
    baseline ((replay put).1.states pid) =
      (lastOf pid put).map fun packet => (counterOf packet.bytes, packet.bytes) := by
  induction put using List.reverseRecOn with
  | nil => rfl
  | append_singleton put packet ih =>
    rw [replay_append, lastOf_append]
    unfold replayPacket
    rw [baseline_observe]
    split
    · rfl
    · exact ih

theorem continuesOn_iff (packet : Packet) (put : List Packet) :
    ContinuesOn (replay put).1 packet.bytes ↔ continues packet put = true := by
  have hbase := replay_baseline (pidOf packet.bytes) put
  simp only [ContinuesOn, continues]
  cases hl : lastOf (pidOf packet.bytes) put with
  | none =>
    have hseen : ((replay put).1.states (pidOf packet.bytes)).seen = false := by
      simpa [hl, baseline] using hbase
    simp [hseen]
  | some last =>
    rw [hl, baseline] at hbase
    split at hbase
    · rename_i hseen
      simp only [Option.map_some, Option.some.injEq, Prod.mk.injEq] at hbase
      simp only [hseen, hbase.1, beq_iff_eq, forall_const]
    · cases hbase

/-! ## The operations -/

/-- The invariant of a session and what it has published. -/
structure PubInv (p : Published) : Prop where
  session : SessionInv p.epoch.session
  before : p.epoch.session.gate.stabilizing = true →
    p.epoch.put = [] ∧ p.epoch.session.counters.continuityErrors = 0
  noHidden : NoHiddenError p
  synced : p.Verified → p.epoch.session.terminal = .none →
    Synced p.epoch.session.gate (replay p.epoch.put).1 ∧
      (replay p.epoch.put).2 = p.epoch.session.counters.continuityErrors

section

variable {cfg : Config} {p p' : Published} {op : Op}

theorem Epoch.step_put {e : Epoch} (ha : op.isAttach = false)
    (hcount : (Stream.step cfg e.session op).queue.count ≤ e.session.queue.count) :
    (e.step cfg op).put = e.put := by
  cases op with
  | attach attachment env => cases ha
  | packet packet =>
    simp only [Epoch.step]
    rw [if_neg (by omega)]
  | releaseFinal attachment =>
    simp only [Epoch.step]
    split <;> rfl
  | _ => rfl

theorem step_terminal {s : Session} (ha : op.isAttach = false)
    (h : (step cfg s op).terminal = .none) : s.terminal = .none := by
  cases hs : op.isStream with
  | true => exact (step_stream cfg hs s).terminal_none h
  | false => exact (step_client cfg hs ha s).terminal h

theorem wireTei_of_step (ha : op.isAttach = false) (h : (p.step cfg op).wireTei = false) :
    p.wireTei = false := by
  cases op with
  | attach attachment env => cases ha
  | wireTei => exact (Bool.or_eq_false_iff.mp h).1
  | _ => exact h

/-- A step that neither publishes nor moves the gate. -/
theorem PubInv.keep (h : PubInv p) (hs : SessionInv p'.epoch.session)
    (hput : p'.epoch.put = p.epoch.put) (hgate : p'.epoch.session.gate = p.epoch.session.gate)
    (herrors : p'.epoch.session.counters.continuityErrors =
      p.epoch.session.counters.continuityErrors)
    (hterm : p'.epoch.session.terminal = .none → p.epoch.session.terminal = .none)
    (hwire : p'.wireTei = false → p.wireTei = false) : PubInv p' := by
  have hverified (hv : p'.Verified) : p.Verified := by
    simp only [Published.Verified, hgate] at hv ⊢
    exact ⟨hv.1, hv.2.1, hwire hv.2.2⟩
  refine ⟨hs, ?_, fun hv => ?_, fun hv ht => ?_⟩
  · rw [hput, hgate, herrors]; exact h.before
  · rw [hput, herrors]; exact h.noHidden (hverified hv)
  · rw [hput, hgate, herrors]; exact h.synced (hverified hv) (hterm ht)

/-- A session that begins to publish, or to stabilize. -/
theorem PubInv.begin (hs : SessionInv p.epoch.session) (hput : p.epoch.put = [])
    (herrors : p.epoch.session.counters.continuityErrors = 0)
    (hepoch : p.epoch.session.gate.checker.untrustedEpoch = 0)
    (hseen : ∀ pid, p.epoch.session.gate.continuity pid = {}) : PubInv p := by
  refine ⟨hs, fun _ => ⟨hput, herrors⟩, fun _ => ?_, fun _ _ => ?_⟩
  · rw [hput]; exact Nat.zero_le _
  · rw [hput, herrors]; exact ⟨synced_fresh hepoch hseen, rfl⟩

/-- A session that has not verified what it publishes. -/
theorem PubInv.unverified (hs : SessionInv p.epoch.session)
    (hbefore : p.epoch.session.gate.stabilizing = true →
      p.epoch.put = [] ∧ p.epoch.session.counters.continuityErrors = 0)
    (hv : ¬p.Verified) : PubInv p :=
  ⟨hs, hbefore, fun h => absurd h hv, fun h => absurd h hv⟩

theorem PubInv.attach (h : PubInv p) (attachment : TunerAttachment) (env : AttachEnv) :
    PubInv (p.step cfg (.attach attachment env)) := by
  have hs := h.session.attach cfg attachment env
  cases ha : attachSession cfg attachment env p.epoch.session with
  | error err =>
    have heq : p.step cfg (.attach attachment env) = p := by
      simp only [Published.step, Epoch.step, ha, Stream.step, attach_of_error ha]
    rw [heq]
    exact h
  | ok s' =>
    obtain ⟨-, -, hcounters, -, -⟩ := h.session.attachSession ha
    have hgate := attachSession_gate ha
    have heq : p.step cfg (.attach attachment env) =
        ⟨{ session := (Stream.attach cfg attachment env p.epoch.session).1 }, false⟩ := by
      simp only [Published.step, Epoch.step, ha, Stream.step]
    rw [heq]
    rcases attach_of_ok ha with hok | hok <;> rw [hok] at hs ⊢
    · refine PubInv.begin hs rfl ?_ ?_ fun pid => ?_ <;> simp only [hcounters, hgate]
      rfl
    · refine PubInv.begin hs rfl ?_ ?_ fun pid => ?_ <;>
        simp only [startFailed, hcounters, hgate]
      rfl

theorem Published.step_session (cfg : Config) (p : Published) (op : Op) :
    (p.step cfg op).epoch.session = Stream.step cfg p.epoch.session op :=
  Epoch.step_session p.epoch op

theorem PubInv.stepSession (cfg : Config) (h : PubInv p) (op : Op) :
    SessionInv (p.step cfg op).epoch.session := by
  rw [Published.step_session]
  exact h.session.step cfg op

/-- A packet or a wire mark of a stabilizing session. -/
theorem PubInv.startupPacket (h : PubInv p) (hlive : p.epoch.session.live = true)
    (hst : p.epoch.session.gate.stabilizing = true) (hop : op.isPacket = true) :
    PubInv (p.step cfg op) := by
  have hcounted := counted_spec hlive hop
  have hsession := p.step_session cfg op
  rw [step_startupPacket hlive hst hop, finishStartupPacket_eq (hcounted.stabilizing.trans hst)
    (Session.terminal_of_live hlive)] at hsession
  obtain ⟨hempty, hzero⟩ := h.before hst
  have hput : (p.step cfg op).epoch.put = [] := by
    refine (Epoch.step_put ?_ ?_).trans hempty
    · cases op <;> first | rfl | cases hop
    · rw [← p.step_session cfg, hsession]
      split <;> exact Nat.le_refl _
  split at hsession
  · have hstay : (p.step cfg op).epoch.session.gate.stabilizing = true := by
      rw [hsession]; exact hcounted.stabilizing.trans hst
    refine PubInv.unverified (h.stepSession cfg op) (fun _ => ⟨hput, ?_⟩) fun hv => ?_
    · rw [hsession]; exact hzero
    · rw [hv.1] at hstay; cases hstay
  · refine PubInv.unverified (h.stepSession cfg op) (fun hst' => ?_) fun hv => ?_
    · rw [hsession] at hst'; cases hst'
    · obtain ⟨-, hfallback, -⟩ := hv
      rw [hsession] at hfallback
      cases hfallback

/-- The end of a USB event of a session that has left stabilization. -/
theorem countSyncDeltas_left {s : Session} (hst : s.gate.stabilizing = false) (losses : Nat)
    (publishedBefore : Bool) :
    (countSyncDeltas losses publishedBefore s).gate = s.gate ∧
      (countSyncDeltas losses publishedBefore s).counters.continuityErrors =
        s.counters.continuityErrors := by
  have hloss : (countSyncLosses losses publishedBefore s).gate = s.gate ∧
      (countSyncLosses losses publishedBefore s).counters.continuityErrors =
        s.counters.continuityErrors := by
    simp only [countSyncLosses, hst, Bool.false_eq_true, if_false]
    split
    · exact ⟨rfl, rfl⟩
    split <;> exact ⟨rfl, rfl⟩
  have hpromote (s' : Session) (h : s'.gate = s.gate) : promoteReady s' = s' := by
    simp [promoteReady, h, hst]
  unfold countSyncDeltas
  split
  · rw [hpromote _ hloss.1]
    exact hloss
  · rw [hpromote s rfl]
    exact ⟨rfl, rfl⟩

theorem PubInv.eventEnd (h : PubInv p) (hlive : p.epoch.session.live = true) (losses : Nat)
    (publishedBefore : Bool) : PubInv (p.step cfg (.eventEnd losses publishedBefore)) := by
  have hsession := p.step_session cfg (.eventEnd losses publishedBefore)
  have hstep := h.stepSession cfg (.eventEnd losses publishedBefore)
  have hput : (p.step cfg (.eventEnd losses publishedBefore)).epoch.put = p.epoch.put := rfl
  cases hst : p.epoch.session.gate.stabilizing with
  | false =>
    obtain ⟨hgate, herrors⟩ := countSyncDeltas_left hst losses publishedBefore
    refine h.keep hstep hput ?_ ?_ (fun hn => ?_) id
    · rw [hsession]; exact hgate
    · rw [hsession]; exact herrors
    · rw [hsession] at hn; exact step_terminal rfl hn
  | true =>
    obtain ⟨hempty, hzero⟩ := h.before hst
    have heq : step cfg p.epoch.session (.eventEnd losses publishedBefore) = _ :=
      countSyncDeltas_startup hlive hst losses publishedBefore
    rw [heq] at hsession
    have hstay (hs : (p.step cfg (.eventEnd losses publishedBefore)).epoch.session.gate.stabilizing
          = true)
        (herrors :
          (p.step cfg (.eventEnd losses publishedBefore)).epoch.session.counters.continuityErrors
          = 0) : PubInv (p.step cfg (.eventEnd losses publishedBefore)) :=
      PubInv.unverified hstep (fun _ => ⟨hput.trans hempty, herrors⟩)
        fun hv => by rw [hv.1] at hs; cases hs
    split at hsession
    · exact hstay (by rw [hsession]; exact hst) (by rw [hsession]; exact hzero)
    split at hsession
    · -- promoted: the two checkers start here
      refine PubInv.begin hstep (hput.trans hempty) ?_ ?_ fun pid => ?_
      · rw [hsession]; exact hzero
      · rw [hsession]; rfl
      · rw [hsession]; rfl
    · exact hstay (by rw [hsession]; exact hst) (by rw [hsession]; exact hzero)

/-! ### A published packet -/

/-- What `enqueue` does after startup without fallback: the packet is withheld, dropped or put. -/
inductive PublicStep (packet : Packet) (s s' : Session) : Prop
  | withheld (hobs : (observeContinuity packet s.gate).2 = .boundary)
      (hqueue : s'.queue = s.queue)
      (herrors : s'.counters.continuityErrors = s.counters.continuityErrors)
  | dropped (hfull : s.queue.count = s.queue.capacity) (hqueue : s'.queue = s.queue)
      (herrors : s.counters.continuityErrors ≤ s'.counters.continuityErrors)
      (hterm : s'.terminal = .slowConsumer)
  | put (hroom : s.queue.count ≠ s.queue.capacity)
      (hobs : (observeContinuity packet s.gate).2 ≠ .boundary)
      (hqueue : s'.queue = s.queue.push packet)
      (herrors : s'.counters.continuityErrors = s.counters.continuityErrors +
        if (observeContinuity packet s.gate).2 = .fault then 1 else 0)

theorem enqueuePublic_step {packet : Packet} {s : Session}
    (hfallback : s.gate.startupBudgetFallback = false) :
    PublicStep packet s (enqueuePublic packet s) := by
  obtain ⟨checker, continuity, established, hframe, -⟩ := observeContinuity_frame packet s.gate
  have hkept : (observeContinuity packet s.gate).1.startupBudgetFallback = false := by
    rw [hframe]; exact hfallback
  by_cases hobs : (observeContinuity packet s.gate).2 = .boundary
  · refine .withheld hobs ?_ ?_ <;> simp only [enqueuePublic, hobs, hkept, and_self, if_true]
  · simp only [enqueuePublic, hobs, false_and, if_false, publishPacket]
    split
    · rename_i hfull
      exact .dropped hfull rfl (Nat.le_add_right _ _) rfl
    · rename_i hroom
      exact .put hroom hobs rfl rfl

theorem enqueuePublic_gate (packet : Packet) (s : Session) :
    (enqueuePublic packet s).gate = (observeContinuity packet s.gate).1 := by
  simp only [enqueuePublic, publishPacket]
  split
  · rfl
  · split <;> rfl

variable {packet : Packet}

theorem step_public {s : Session} (hlive : s.live = true) (hst : s.gate.stabilizing = false) :
    step cfg s (.packet packet) = enqueuePublic packet s := by
  simp only [step, enqueue, hlive, hst, Bool.not_true, Bool.false_eq_true, if_false]

theorem verified_public (hlive : p.epoch.session.live = true)
    (hst : p.epoch.session.gate.stabilizing = false) :
    (p.step cfg (.packet packet)).Verified ↔ p.Verified := by
  obtain ⟨checker, continuity, established, hframe, -⟩ :=
    observeContinuity_frame packet p.epoch.session.gate
  have hgate : (p.step cfg (.packet packet)).epoch.session.gate =
      p.epoch.session.gate.withContinuity checker continuity established := by
    rw [p.step_session cfg, step_public hlive hst, enqueuePublic_gate, hframe]
  simp only [Published.Verified, hgate]
  exact Iff.rfl

/-- The client's checker after a packet that is put: it has found an error exactly when the session
has, or the packet is of a PID not yet established and does not continue what was put before. -/
theorem replay_put {g : Startup} {put : List Packet} (h : Synced g (replay put).1)
    (hobs : (observeContinuity packet g).2 ≠ .boundary) :
    ((unestablished g packet = true → continues packet put = true) →
      Synced (observeContinuity packet g).1 (replay (put ++ [packet])).1 ∧
        (replay (put ++ [packet])).2 =
          (replay put).2 + if (observeContinuity packet g).2 = .fault then 1 else 0) ∧
    (¬(unestablished g packet = true → continues packet put = true) →
      (replay (put ++ [packet])).2 = (replay put).2 + 1 ∧
        (observeContinuity packet g).2 = .clean) := by
  have hpacket := synced_packet h packet
  rw [replay_append, ← continuesOn_iff]
  constructor
  · intro hc
    obtain ⟨hsync, hkind⟩ := hpacket.published hobs hc
    refine ⟨hsync, ?_⟩
    simp only [replayPacket, hkind]
  · intro hc
    obtain ⟨hkind, hclean⟩ := hpacket.hidden hobs hc
    refine ⟨?_, hclean⟩
    simp only [replayPacket, hkind, if_true]

/-- **A packet that is put** into the ring of a session that publishes what it has verified. -/
theorem PubInv.put (h : PubInv p) (hv : p.Verified) (hlive : p.epoch.session.live = true)
    (hstep : PublicStep packet p.epoch.session (enqueuePublic packet p.epoch.session)) :
    (PublishCond p (.packet packet) → PubInv (p.step cfg (.packet packet))) ∧
      (¬PublishCond p (.packet packet) → ¬NoHiddenError (p.step cfg (.packet packet))) := by
  have hst := hv.1
  have hs := h.stepSession cfg (.packet packet)
  have hsession := p.step_session cfg (.packet packet)
  rw [step_public hlive hst] at hsession
  have hgate := enqueuePublic_gate packet p.epoch.session
  have hleft : (p.step cfg (.packet packet)).epoch.session.gate.stabilizing = false :=
    ((verified_public hlive hst).mpr hv).1
  obtain ⟨hsync, herr⟩ := h.synced hv (Session.terminal_of_live hlive)
  have hkept (hqueue : (enqueuePublic packet p.epoch.session).queue = p.epoch.session.queue) :
      (p.step cfg (.packet packet)).epoch.put = p.epoch.put := by
    refine Epoch.step_put rfl ?_
    rw [step_public hlive hst, hqueue]
  have hnot {P : Prop} (hs : (p.step cfg (.packet packet)).epoch.session.gate.stabilizing =
      true) : P := by
    rw [hleft] at hs; cases hs
  cases hstep with
  | withheld hobs hqueue herrors =>
    have hput := hkept hqueue
    refine ⟨fun _ => ⟨hs, hnot, fun _ => ?_, fun _ _ => ?_⟩, fun hc => absurd ?_ hc⟩
    · rw [hput, hsession, herrors, herr]
    · rw [hput, hsession, herrors, hgate]
      exact ⟨(synced_packet hsync packet).withheld hobs, herr⟩
    · exact fun _ _ _ hu => absurd hobs (unestablished_published hu)
  | dropped hfull hqueue herrors hterm =>
    have hput := hkept hqueue
    refine ⟨fun _ => ⟨hs, hnot, fun _ => ?_, fun _ ht => ?_⟩, fun hc => absurd ?_ hc⟩
    · rw [hput, hsession, herr]; exact herrors
    · rw [hsession, hterm] at ht; cases ht
    · exact fun _ _ hroom => absurd hfull hroom
  | put hroom hobs hqueue herrors =>
    have hput : (p.step cfg (.packet packet)).epoch.put = p.epoch.put ++ [packet] := by
      simp only [Published.step, Epoch.step, step_public hlive hst, hqueue]
      rw [if_pos (by rfl)]
    have hcond : PublishCond p (.packet packet) ↔
        (unestablished p.epoch.session.gate packet = true →
          continues packet p.epoch.put = true) := by
      simp only [PublishCond, hv, hlive, ne_eq, hroom, not_false_eq_true, forall_const]
    obtain ⟨hcontinued, hbroken⟩ := replay_put hsync hobs
    rw [← hput] at hcontinued hbroken
    constructor
    · intro hc
      obtain ⟨hsync', heq⟩ := hcontinued (hcond.mp hc)
      rw [herr, ← herrors, ← hsession] at heq
      refine ⟨hs, hnot, fun _ => Nat.le_of_eq heq, fun _ _ => ⟨?_, heq⟩⟩
      rw [hsession, hgate]
      exact hsync'
    · intro hc hgood
      obtain ⟨heq, hclean⟩ := hbroken fun h => hc (hcond.mpr h)
      have hle := hgood ((verified_public hlive hst).mpr hv)
      rw [hsession, herrors, hclean, heq, herr, if_neg (by simp)] at hle
      omega

/-- A packet of a session that has left stabilization. -/
theorem PubInv.publicPacket (h : PubInv p) (hlive : p.epoch.session.live = true)
    (hst : p.epoch.session.gate.stabilizing = false) :
    (PublishCond p (.packet packet) → PubInv (p.step cfg (.packet packet))) ∧
      (¬PublishCond p (.packet packet) → ¬NoHiddenError (p.step cfg (.packet packet))) := by
  by_cases hv : p.Verified
  · exact h.put hv hlive (enqueuePublic_step hv.2.1)
  · refine ⟨fun _ => ?_, fun hc => absurd (fun hv' => absurd hv' hv) hc⟩
    refine PubInv.unverified (h.stepSession cfg _) (fun hs => ?_)
      fun hv' => hv ((verified_public hlive hst).mp hv')
    have hleft : LeftStep _ (Stream.step cfg p.epoch.session (.packet packet)) _ :=
      publicPacket_left hlive hst rfl
    rw [p.step_session cfg, hleft.stabilizing] at hs
    cases hs

/-- **Every operation**: under `PublishCond` it keeps the invariant, and without it an error is
hidden. -/
theorem PubInv.step (h : PubInv p) (op : Op) :
    (PublishCond p op → PubInv (p.step cfg op)) ∧
      (¬PublishCond p op → ¬NoHiddenError (p.step cfg op)) := by
  have hother (hpacket : ∀ packet, op ≠ .packet packet) : PublishCond p op := by
    cases op with
    | packet packet => exact absurd rfl (hpacket packet)
    | _ => trivial
  rcases op_cases p.epoch.session op with ⟨attachment, env, rfl⟩ | ⟨hlive, hop⟩ |
    ⟨hlive, losses, publishedBefore, rfl⟩ | ⟨hattach, hop⟩
  · exact ⟨fun _ => h.attach attachment env, fun hc => absurd trivial hc⟩
  · cases hst : p.epoch.session.gate.stabilizing with
    | true =>
      refine ⟨fun _ => h.startupPacket hlive hst hop, fun hc => absurd ?_ hc⟩
      cases op with
      | packet packet => exact fun hv => absurd (hst.symm.trans hv.1) nofun
      | _ => trivial
    | false =>
      cases op with
      | packet packet => exact h.publicPacket hlive hst
      | wireTei =>
        refine ⟨fun _ => ?_, fun hc => absurd trivial hc⟩
        refine PubInv.unverified (h.stepSession cfg _) (fun hs => ?_) fun hv => ?_
        · have hleft : LeftStep _ (Stream.step cfg p.epoch.session .wireTei) _ :=
            publicPacket_left hlive hst rfl
          rw [p.step_session cfg, hleft.stabilizing] at hs
          cases hs
        · have := hv.2.2
          simp [Published.step, hlive, hst] at this
      | _ => cases hop
  · exact ⟨fun _ => h.eventEnd hlive losses publishedBefore, fun hc => absurd trivial hc⟩
  · have hq : GateQuiet _ (Stream.step cfg p.epoch.session op) := step_gateQuiet hattach hop
    refine ⟨fun _ => ?_, fun hc => absurd ?_ hc⟩
    · refine h.keep (h.stepSession cfg op) (Epoch.step_put hattach hq.count) ?_ ?_ (fun hn => ?_)
        (wireTei_of_step hattach)
      · rw [p.step_session cfg]; exact hq.gate
      · rw [p.step_session cfg]; exact congrArg Faults.continuity hq.faults
      · rw [p.step_session cfg] at hn; exact step_terminal hattach hn
    · cases op with
      | packet packet =>
        intro _ hlive
        obtain ⟨hpacket, -⟩ := hop hlive
        cases hpacket
      | _ => trivial

theorem pubInv_init : PubInv {} :=
  PubInv.begin sessionInv_init rfl rfl rfl fun _ => rfl

end

/-- **No hidden continuity error, exactly when.** At every step of a run the fresh checker finds no
more errors in the published packets than the session counts, exactly when at every step of the run
a packet of a PID not yet established that enters the ring continues what was published of its
PID. -/
theorem published_errors_iff (cfg : Config) (ops : List Op) :
    Lib.AllSteps (Published.step cfg) (fun p op => NoHiddenError (p.step cfg op)) {} ops ↔
      Lib.AllSteps (Published.step cfg) PublishCond {} ops :=
  Lib.allSteps_iff (fun _ op h hc => ⟨(h.step op).1 hc, ((h.step op).1 hc).noHidden⟩)
    (fun _ op h hc => (h.step op).2 hc) ops pubInv_init

/-- On a promoted session, a packet of PID 256 without payload (counter 5) is published, the payload
packet after it (6) is withheld and the next one (7) establishes the PID: the client misses a packet
that the session does not count. -/
theorem published_errors_hidden :
    let p := [Op.attach firstClient calmEnv, .packet markerPacket, .eventEnd 0 false,
      .packet (headerPacket 1 0 0x25 183 0), .packet (headerPacket 1 0 0x16 0 0),
      .packet (headerPacket 1 0 0x17 0 0)].foldl (Published.step promptConfig) {}
    p.Verified ∧ p.epoch.put.length = 2 ∧ (replay p.epoch.put).2 = 1 ∧
      p.epoch.session.counters.continuityErrors = 0 ∧ ¬NoHiddenError p := by
  decide +kernel

end Px4.Stream
