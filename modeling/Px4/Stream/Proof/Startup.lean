import Px4.Stream.StartupLog
import Px4.Stream.Proof.Frame

/-!
# The startup gate

`GateInv` ties the gate's fields to the session's log. While the session is stabilizing its counts
are those of the log and nothing has been published; once it has left, its counters are the faults
since the attach (after a fallback) or since the promotion.

* `startupPacket_inv`, `publicPacket_inv`, `eventEnd_inv` — the operations that move the gate.
* `GateInv.step` — every operation keeps the invariant.
* `startup_gate` — promotion, fallback and the bound on the withheld packets, at every step of every
  run.
* `startup_faults` — the fault counters after a fallback or a promotion.
-/

namespace Px4.Stream

/-! ## Faults -/

@[ext]
theorem Faults.ext' {a b : Faults} (h1 : a.tei = b.tei) (h2 : a.continuity = b.continuity)
    (h3 : a.sync = b.sync) : a = b := by
  cases a
  cases b
  simp_all

@[simp] theorem Faults.add_tei (a b : Faults) : (a + b).tei = a.tei + b.tei := rfl

@[simp] theorem Faults.add_continuity (a b : Faults) :
    (a + b).continuity = a.continuity + b.continuity := rfl

@[simp] theorem Faults.add_sync (a b : Faults) : (a + b).sync = a.sync + b.sync := rfl

@[simp] theorem Faults.add_none (a : Faults) : a + {} = a := rfl

@[simp] theorem Faults.none_add (a : Faults) : ({} : Faults) + a = a := by
  ext <;> simp

/-! ## One observation -/

section

variable {s : Session} {g : Startup} {policy : StartupStabilizationPolicy} {packet : Packet}

/-- The gate with another checker and startup continuity. -/
def Startup.withContinuity (g : Startup) (checker : Ts.ContinuityChecker)
    (continuity : Nat → StartupContinuity) (established : Bool) : Startup :=
  { g with checker, continuity, startupContinuityEstablished := established }

/-- An observation changes the checker, the startup continuity of a PID and whether continuity is
established, and does not read the gate's counts. -/
theorem observeContinuity_frame (packet : Packet) (g : Startup) :
    ∃ checker continuity established,
      (observeContinuity packet g).1 = g.withContinuity checker continuity established ∧
      ∀ n, observeContinuity packet { g with startupPackets := n } =
        ({ g.withContinuity checker continuity established with startupPackets := n },
          (observeContinuity packet g).2) := by
  simp only [observeContinuity]
  split
  · exact ⟨_, _, _, rfl, fun _ => rfl⟩
  split
  · exact ⟨_, _, _, rfl, fun _ => rfl⟩
  split
  · exact ⟨_, _, _, rfl, fun _ => rfl⟩
  split
  · exact ⟨_, _, _, rfl, fun _ => rfl⟩
  split
  · exact ⟨_, _, _, rfl, fun _ => rfl⟩
  split <;> exact ⟨_, _, _, rfl, fun _ => rfl⟩

/-- A packet with a transport error breaks no continuity. -/
theorem observeContinuity_tei (h : packet.tei = true) (g : Startup) :
    (observeContinuity packet g).2 = .clean := by
  have hkind : (g.checker.observe (some packet.bytes)).1.kind = .transportError ∨
      (g.checker.observe (some packet.bytes)).1.kind = .invalidPacket := by
    have htei : Ts.Continuity.byte packet.bytes 1 &&& 0x80 ≠ 0 := by
      simpa [Packet.tei] using h
    simp only [Ts.ContinuityChecker.observe]
    split
    · exact .inr rfl
    · exact .inl rfl
  unfold observeContinuity
  rcases hkind with hkind | hkind
  · simp only [hkind, or_true, true_or, if_true]
  · simp only [hkind, or_true, if_true]

/-! ## A packet during startup -/

/-- The gate after a packet or a wire mark has been counted, before it is judged. -/
def Startup.counted (g : Startup) : Op → Startup
  | .packet packet => if packet.tei then g.countTei else g.countPacket packet
  | _ => g.countTei

theorem step_startupPacket {cfg : Config} {op : Op} (hlive : s.live = true)
    (hst : s.gate.stabilizing = true) (hop : op.isPacket = true) :
    step cfg s op = finishStartupPacket cfg.stabilization { s with gate := s.gate.counted op } := by
  cases op with
  | packet packet =>
    simp only [step, enqueue, hlive, hst, Bool.not_true, Bool.false_eq_true, if_false, if_true,
      enqueueStartup, Startup.counted]
    split <;> rfl
  | wireTei => simp [step, countWireTei, hlive, hst, Startup.counted]
  | _ => cases hop

/-- What counting does: one packet more, one clean packet more or none, the fault recorded. -/
structure Counted (g g' : Startup) (new : Faults) : Prop where
  stabilizing : g'.stabilizing = g.stabilizing
  fallback : g'.startupBudgetFallback = g.startupBudgetFallback
  packets : g'.startupPackets = g.startupPackets + 1
  clean : g'.startupCleanPackets = if new != {} then 0 else g.startupCleanPackets + 1
  faults : g'.startupFaults.faults = g.startupFaults.faults + new

theorem counted_spec {op : Op} (hlive : s.live = true) (hop : op.isPacket = true) :
    Counted s.gate (s.gate.counted op) (observedFaults s op) := by
  have htei : Counted s.gate s.gate.countTei { tei := 1 } :=
    ⟨rfl, rfl, rfl, rfl, rfl⟩
  cases op with
  | wireTei => simpa [observedFaults, hlive, Startup.counted] using htei
  | packet packet =>
    simp only [observedFaults, hlive, Bool.not_true, Bool.false_eq_true, if_false,
      Startup.counted]
    split
    · exact htei
    unfold Startup.countPacket
    obtain ⟨checker, continuity, established, -, hframe⟩ := observeContinuity_frame packet s.gate
    rw [hframe (s.gate.startupPackets + 1)]
    by_cases hfault : (observeContinuity packet s.gate).2 = .fault
    · simp only [hfault, if_true]
      exact ⟨rfl, rfl, rfl, rfl, rfl⟩
    · simp only [hfault, if_false]
      exact ⟨rfl, rfl, rfl, rfl, rfl⟩
  | _ => cases hop

/-- The session stays in startup. -/
def stayed (policy : StartupStabilizationPolicy) (s : Session) (g : Startup) : Session :=
  { s with gate := { g with stabilizationReady := g.ready policy } }

/-- The session falls back. -/
def fallen (s : Session) (g : Startup) : Session :=
  fallBack { s with gate := { g with stabilizationReady := false } }

/-- `finish_startup_packet_locked` of a stabilizing session. -/
theorem finishStartupPacket_eq (hst : g.stabilizing = true) (hterm : s.terminal = .none) :
    finishStartupPacket policy { s with gate := g } =
      if g.startupPackets < policy.maximumPackets ∨ g.ready policy = true then stayed policy s g
      else fallen s g := by
  simp only [finishStartupPacket, stayed, fallen, hst, hterm, Bool.not_true, bne_self_eq_false,
    Bool.or_self, Bool.false_eq_true, if_false, Bool.or_eq_true, decide_eq_true_eq]
  split
  · rfl
  · rename_i hready
    simp only [not_or, Bool.not_eq_true] at hready
    rw [hready.2]

/-! ## The invariant -/

/-- A stabilizing session: nothing published, and the gate's counts are those of the log. Past the
maximum, either it is reached in the present USB event with the session ready, or a sync loss has
just ended that event; for this a clean tail must be longer than one packet. -/
structure StabInv (policy : StartupStabilizationPolicy) (l : StartupLog) : Prop where
  empty : l.session.queue.count = 0
  withheld : l.withheld = l.session.gate.startupPackets
  sinceFault : l.sinceFault = l.session.gate.startupCleanPackets
  ready : l.session.gate.stabilizationReady = l.session.gate.ready policy
  fallback : l.session.gate.startupBudgetFallback = false
  faults : l.session.gate.startupFaults.faults = l.faults
  counters : l.session.counters.faults = {}
  bound : 2 ≤ policy.cleanPackets → l.withheld < policy.maximumPackets ∧ l.reaching = false ∨
    policy.maximumPackets ≤ l.withheld ∧ l.withheld + 1 ≤ policy.maximumPackets + l.reachedIn ∧
      (l.reaching = true ∧ l.session.gate.stabilizationReady = true ∨
        l.reaching = false ∧ l.sinceFault = 0)

/-- A session that has left stabilization. -/
structure LeftInv (policy : StartupStabilizationPolicy) (l : StartupLog) : Prop where
  boundary : l.session.gate.stabilizationBoundaryEstablished = true
  fallen : l.session.gate.startupBudgetFallback = true → l.session.counters.faults = l.faults
  promoted : l.session.gate.startupBudgetFallback = false →
    l.session.counters.faults = l.faultsAfter
  bound : 2 ≤ policy.cleanPackets → l.withheld ≤ policy.maximumPackets + l.reachedIn

/-- The invariant of a session and its log. -/
structure GateInv (policy : StartupStabilizationPolicy) (l : StartupLog) : Prop where
  reachedIn : l.reaching = true → l.reachedIn = l.inEvent
  stab : l.session.gate.stabilizing = true → StabInv policy l
  left : l.session.gate.stabilizing = false → LeftInv policy l

variable {cfg : Config} {l : StartupLog} {op : Op}

theorem ready_iff (h : StabInv policy l) :
    l.session.gate.ready policy = true ↔ l.Ready policy := by
  simp only [Startup.ready, StartupLog.Ready, Bool.and_eq_true, decide_eq_true_eq, h.withheld,
    h.sinceFault]
  tauto

/-! ### Operations that leave the gate alone -/

/-- The gate and the fault counters are as before, and the queue is no longer. -/
structure GateQuiet (s s' : Session) : Prop where
  gate : s'.gate = s.gate
  faults : s'.counters.faults = s.counters.faults
  count : s'.queue.count ≤ s.queue.count

theorem GateInv.keep (h : GateInv policy l) {s' : Session} (hq : GateQuiet l.session s')
    (after : Faults)
    (hafter : l.session.gate.stabilizing = false → after = l.faultsAfter) :
    GateInv policy { l with session := s', faultsAfter := after } := by
  refine ⟨h.reachedIn, fun hst => ?_, fun hst => ?_⟩
  · obtain ⟨hempty, hw, hsf, hr, hfb, hf, hc, hb⟩ := h.stab (by simpa [hq.gate] using hst)
    have hcount := hq.count
    refine ⟨by simpa using (by omega : s'.queue.count = 0), ?_, ?_, ?_, ?_, ?_, ?_, ?_⟩ <;>
      simp only [hq.gate, hq.faults] <;> assumption
  · have hst' : l.session.gate.stabilizing = false := by simpa [hq.gate] using hst
    obtain ⟨hb, hf, hp, hbound⟩ := h.left hst'
    refine ⟨?_, ?_, ?_, hbound⟩ <;> simp only [hq.gate, hq.faults]
    · exact hb
    · exact hf
    · rw [hafter hst']; exact hp

theorem not_live_step (hlive : s.live = false)
    (hop : op.isPacket = true ∨ ∃ losses publishedBefore, op = .eventEnd losses publishedBefore) :
    step cfg s op = s := by
  rcases hop with hop | ⟨losses, publishedBefore, rfl⟩
  · cases op with
    | packet packet => simp [step, enqueue, hlive]
    | wireTei => simp [step, countWireTei, hlive]
    | _ => cases hop
  · simp [step, countSyncDeltas, countSyncLosses, promoteReady, hlive]

/-- The operations that do not move the gate. -/
theorem step_gateQuiet (hattach : op.isAttach = false)
    (hop : s.live = true → op.isPacket = false ∧
      ∀ losses publishedBefore, op ≠ .eventEnd losses publishedBefore) :
    GateQuiet s (step cfg s op) := by
  have hrefl : GateQuiet s s := ⟨rfl, rfl, Nat.le_refl _⟩
  have hdead (h : op.isPacket = true ∨
      ∃ losses publishedBefore, op = .eventEnd losses publishedBefore) :
      GateQuiet s (step cfg s op) := by
    have hlive : s.live = false := by
      by_contra hlive
      obtain ⟨h1, h2⟩ := hop (by simpa using hlive)
      rcases h with h | ⟨losses, publishedBefore, h⟩
      · rw [h] at h1; cases h1
      · exact h2 losses publishedBefore h
    rw [not_live_step hlive h]
    exact hrefl
  have hclient (h : op.isStream = false) : GateQuiet s (step cfg s op) := by
    have hc := step_client cfg h hattach s
    exact ⟨hc.gate, by rw [hc.counters], hc.count⟩
  cases op with
  | packet packet => exact hdead (.inl rfl)
  | wireTei => exact hdead (.inl rfl)
  | eventEnd losses publishedBefore => exact hdead (.inr ⟨_, _, rfl⟩)
  | empty =>
    simp only [step, countEmpty]
    split
    · exact ⟨rfl, rfl, Nat.le_refl _⟩
    · exact hrefl
  | waitFailed err =>
    simp only [step, markBridgeTerminal]
    split
    · exact ⟨rfl, rfl, Nat.le_refl _⟩
    · exact hrefl
  | pushFailed err =>
    simp only [step, markBridgeTerminal]
    split
    · exact ⟨rfl, rfl, Nat.le_refl _⟩
    · exact hrefl
  | enclosureFatal =>
    simp only [step, markAllTerminal]
    split
    · exact ⟨rfl, rfl, Nat.le_refl _⟩
    · exact hrefl
  | attach attachment env => cases hattach
  | _ => exact hclient rfl

/-- The log of an operation that the session does not see. -/
theorem step_log_quiet (hattach : op.isAttach = false)
    (hop : l.session.live = true → op.isPacket = false ∧
      ∀ losses publishedBefore, op ≠ .eventEnd losses publishedBefore) :
    l.step cfg op = { l with
      session := step cfg l.session op
      faultsAfter := if l.session.gate.stabilizing then {} else l.faultsAfter } := by
  have hsee : l.see cfg.stabilization.maximumPackets op = l ∧
      observedFaults l.session op = {} := by
    cases hlive : l.session.live with
    | false => simp [StartupLog.see, observedFaults, hlive]
    | true =>
      obtain ⟨h1, h2⟩ := hop hlive
      cases op with
      | packet packet => cases h1
      | wireTei => cases h1
      | eventEnd losses publishedBefore => exact absurd rfl (h2 losses publishedBefore)
      | _ => simp [StartupLog.see, observedFaults, hlive]
  cases op with
  | attach attachment env => cases hattach
  | _ => simp only [StartupLog.step, hsee.1, hsee.2, Faults.add_none]

/-! ### A packet -/

/-- The log with a packet and its fault. -/
def StartupLog.counted (l : StartupLog) (maximum : Nat) (op : Op) : StartupLog :=
  { l.packet maximum (observedFaults l.session op != {}) with
    faults := l.faults + observedFaults l.session op
    faultsAfter := if l.session.gate.stabilizing then {}
      else l.faultsAfter + observedFaults l.session op }

/-- The log of a packet that the session sees. -/
theorem step_log_packet (hlive : l.session.live = true) (hop : op.isPacket = true) :
    l.step cfg op = { l.counted cfg.stabilization.maximumPackets op with
      session := step cfg l.session op } := by
  cases op with
  | packet packet => simp [StartupLog.step, StartupLog.see, StartupLog.counted, hlive]
  | wireTei => simp [StartupLog.step, StartupLog.see, StartupLog.counted, hlive]
  | _ => cases hop

/-- A packet of a stabilizing session that is counted and not yet judged: `g` is the gate, `L` the
log with the packet and its fault. -/
structure Judged (policy : StartupStabilizationPolicy) (s : Session) (g : Startup)
    (L : StartupLog) : Prop where
  empty : s.queue.count = 0
  counters : s.counters.faults = {}
  stabilizing : g.stabilizing = true
  fallback : g.startupBudgetFallback = false
  withheld : L.withheld = g.startupPackets
  sinceFault : L.sinceFault = g.startupCleanPackets
  faults : g.startupFaults.faults = L.faults
  reachedIn : L.reaching = true → L.reachedIn = L.inEvent
  below : 2 ≤ policy.cleanPackets → L.withheld < policy.maximumPackets → L.reaching = false
  past : 2 ≤ policy.cleanPackets → policy.maximumPackets ≤ L.withheld →
    L.withheld ≤ policy.maximumPackets + L.reachedIn
  pastReady : 2 ≤ policy.cleanPackets → policy.maximumPackets ≤ L.withheld →
    g.ready policy = true →
    L.reaching = true ∧ L.withheld + 1 ≤ policy.maximumPackets + L.reachedIn

theorem Judged.stay {L : StartupLog} (h : Judged policy s g L)
    (hc : L.withheld < policy.maximumPackets ∨ g.ready policy = true) :
    GateInv policy { L with session := stayed policy s g } := by
  refine ⟨h.reachedIn, fun _ => ?_, fun hf => ?_⟩
  · refine ⟨h.empty, h.withheld, h.sinceFault, rfl, h.fallback, h.faults, h.counters,
      fun hclean => ?_⟩
    by_cases hlt : L.withheld < policy.maximumPackets
    · exact .inl ⟨hlt, h.below hclean hlt⟩
    · have hready : g.ready policy = true := hc.resolve_left hlt
      have hmax : policy.maximumPackets ≤ L.withheld := by omega
      obtain ⟨hr, hb⟩ := h.pastReady hclean hmax hready
      exact .inr ⟨hmax, hb, .inl ⟨hr, hready⟩⟩
  · exact absurd h.stabilizing (Bool.eq_false_iff.mp hf)

theorem Judged.fall {L : StartupLog} (h : Judged policy s g L)
    (hmax : policy.maximumPackets ≤ L.withheld) :
    GateInv policy { L with session := fallen s g } := by
  refine ⟨h.reachedIn, nofun, fun _ => ⟨rfl, fun _ => ?_, nofun, fun hc => h.past hc hmax⟩⟩
  have hcounters := h.counters
  show Faults.mk (s.counters.teiPackets + g.startupFaults.teiPackets)
    (s.counters.continuityErrors + g.startupFaults.continuityErrors)
    (s.counters.syncErrors + g.startupFaults.syncErrors) = L.faults
  rw [← h.faults, ← Faults.none_add g.startupFaults.faults, ← hcounters]
  rfl

/-- Counting a packet of a stabilizing session. -/
theorem judged_packet (h : GateInv policy l) (hlive : l.session.live = true)
    (hst : l.session.gate.stabilizing = true) (hop : op.isPacket = true) :
    Judged policy l.session (l.session.gate.counted op) (l.counted policy.maximumPackets op) := by
  have hstab := h.stab hst
  have hcount := counted_spec hlive hop
  have hw : (l.counted policy.maximumPackets op).withheld = l.withheld + 1 := by
    simp [StartupLog.counted, StartupLog.packet, hst]
  have hreach : (l.counted policy.maximumPackets op).reaching =
      (l.reaching || l.withheld + 1 == policy.maximumPackets) := by
    simp [StartupLog.counted, StartupLog.packet, hst]
  have hin : (l.counted policy.maximumPackets op).reachedIn =
      if l.reaching || l.withheld + 1 == policy.maximumPackets then l.inEvent + 1
      else l.reachedIn := by
    simp [StartupLog.counted, StartupLog.packet, hst]
  refine ⟨hstab.empty, hstab.counters, hcount.stabilizing.trans hst,
    hcount.fallback.trans hstab.fallback, ?_, ?_, ?_, fun hr => ?_, fun hclean hlt => ?_,
    fun hclean hmax => ?_, fun hclean hmax hready => ?_⟩
  · rw [hcount.packets, ← hstab.withheld]; exact hw
  · rw [hcount.clean, ← hstab.sinceFault]; rfl
  · rw [hcount.faults, hstab.faults]; rfl
  · exact hin.trans (if_pos (hreach ▸ hr))
  · simp only [hw] at hlt
    simp only [hreach]
    rcases hstab.bound hclean with ⟨-, hno⟩ | ⟨hle, -⟩
    · simp only [hno, Bool.false_or, beq_eq_false_iff_ne, ne_eq]
      omega
    · omega
  · simp only [hw, hin] at hmax ⊢
    rcases hstab.bound hclean with ⟨hlt, -⟩ | ⟨hle, hbound, -⟩
    · omega
    · split
      · rename_i hr
        have hne : (l.withheld + 1 == policy.maximumPackets) = false := by
          simp only [beq_eq_false_iff_ne, ne_eq]
          omega
        rw [hne, Bool.or_false] at hr
        have := h.reachedIn hr
        omega
      · omega
  · simp only [hw, hreach, hin] at hmax ⊢
    rcases hstab.bound hclean with ⟨hlt, -⟩ | ⟨hle, hbound, ⟨hr, -⟩ | ⟨-, hzero⟩⟩
    · have heq : l.withheld + 1 = policy.maximumPackets := by omega
      simp only [heq, beq_self_eq_true, Bool.or_true, if_true, true_and]
      omega
    · have := h.reachedIn hr
      simp only [hr, Bool.true_or, if_true, true_and]
      omega
    · -- a sync loss has just ended the event, so this packet cannot make a clean tail
      exfalso
      have hle1 : (l.session.gate.counted op).startupCleanPackets ≤ 1 := by
        rw [hcount.clean, ← hstab.sinceFault, hzero]
        split <;> omega
      simp only [Startup.ready, Bool.and_eq_true, decide_eq_true_eq] at hready
      omega

/-- What a packet does to a stabilizing session: it stays, or it falls back. -/
structure StartupPacket (cfg : Config) (l : StartupLog) (op : Op) : Prop where
  inv : GateInv cfg.stabilization (l.step cfg op)
  empty : (l.step cfg op).session.queue.count = 0
  fallback : (l.step cfg op).session.gate.startupBudgetFallback = true ↔
    cfg.stabilization.maximumPackets ≤ (l.step cfg op).withheld ∧
      ¬(l.step cfg op).Ready cfg.stabilization
  left : (l.step cfg op).session.gate.stabilizing = false ↔
    (l.step cfg op).session.gate.startupBudgetFallback = true

/-- **A packet of a stabilizing session.** -/
theorem startupPacket_inv (h : GateInv cfg.stabilization l) (hlive : l.session.live = true)
    (hst : l.session.gate.stabilizing = true) (hop : op.isPacket = true) :
    StartupPacket cfg l op := by
  have hstep : step cfg l.session op = _ := step_startupPacket hlive hst hop
  have hlog : l.step cfg op = _ := step_log_packet hlive hop
  have hj := judged_packet h hlive hst hop
  rw [finishStartupPacket_eq hj.stabilizing (Session.terminal_of_live hlive)] at hstep
  generalize l.counted cfg.stabilization.maximumPackets op = L at hlog hj
  generalize l.session.gate.counted op = g at hj hstep
  have hready : g.ready cfg.stabilization = true ↔
      cfg.stabilization.minimumPackets ≤ L.withheld ∧
        cfg.stabilization.cleanPackets ≤ L.sinceFault ∧
        g.startupContinuityEstablished = true := by
    simp only [Startup.ready, Bool.and_eq_true, decide_eq_true_eq, ← hj.withheld,
      ← hj.sinceFault]
    tauto
  rw [← hj.withheld] at hstep
  by_cases hc : L.withheld < cfg.stabilization.maximumPackets ∨ g.ready cfg.stabilization = true
  · rw [if_pos hc] at hstep
    rw [hstep] at hlog
    have hfb : (l.step cfg op).session.gate.startupBudgetFallback = false := by
      rw [hlog]; exact hj.fallback
    refine ⟨by rw [hlog]; exact hj.stay hc, by rw [hlog]; exact hj.empty, ?_, ?_⟩
    · rw [hfb]
      refine iff_of_false nofun fun ⟨hmax, hn⟩ => hn ?_
      rw [hlog] at hmax ⊢
      have hlt : ¬L.withheld < cfg.stabilization.maximumPackets := Nat.not_lt.mpr hmax
      exact hready.mp (hc.resolve_left hlt)
    · rw [hfb, hlog]
      refine iff_of_false (fun hf => ?_) nofun
      exact absurd hj.stabilizing (Bool.eq_false_iff.mp hf)
  · rw [if_neg hc] at hstep
    rw [hstep] at hlog
    have hmax : cfg.stabilization.maximumPackets ≤ L.withheld :=
      Nat.not_lt.mp fun hlt => hc (.inl hlt)
    have hfb : (l.step cfg op).session.gate.startupBudgetFallback = true := by rw [hlog]; rfl
    refine ⟨by rw [hlog]; exact hj.fall hmax, by rw [hlog]; exact hj.empty, ?_, ?_⟩
    · refine iff_of_true hfb ⟨by rw [hlog]; exact hmax, fun hn => hc (.inr ?_)⟩
      rw [hlog] at hn
      exact hready.mpr hn
    · exact iff_of_true (by rw [hlog]; rfl) hfb

/-- What a session that has left stabilization keeps in a step in which it observes `new`. -/
structure LeftStep (s s' : Session) (new : Faults) : Prop where
  stabilizing : s'.gate.stabilizing = false
  boundary : s'.gate.stabilizationBoundaryEstablished = s.gate.stabilizationBoundaryEstablished
  fallback : s'.gate.startupBudgetFallback = s.gate.startupBudgetFallback
  faults : s'.counters.faults = s.counters.faults + new

theorem publishPacket_left {new : Faults} {s' : Session} (h : LeftStep s s' new)
    (packet : Packet) : LeftStep s (publishPacket packet s') new := by
  unfold publishPacket
  split <;> exact ⟨h.stabilizing, h.boundary, h.fallback, h.faults⟩

theorem enqueuePublic_left (hlive : s.live = true) (hst : s.gate.stabilizing = false)
    (packet : Packet) :
    LeftStep s (enqueuePublic packet s) (observedFaults s (.packet packet)) := by
  obtain ⟨checker, continuity, established, hframe, -⟩ := observeContinuity_frame packet s.gate
  have hpair : observeContinuity packet s.gate =
      (s.gate.withContinuity checker continuity established,
        (observeContinuity packet s.gate).2) := Prod.ext hframe rfl
  have htei (hp : packet.tei = true) := observeContinuity_tei hp s.gate
  rw [enqueuePublic, hpair]
  simp only [observedFaults, hlive, Bool.not_true, Bool.false_eq_true, if_false]
  split
  · rename_i hboundary
    refine ⟨hst, rfl, rfl, ?_⟩
    cases hp : packet.tei with
    | true => rw [htei hp] at hboundary; cases hboundary.1
    | false =>
      rw [hboundary.1]
      rfl
  · apply publishPacket_left
    refine ⟨hst, rfl, rfl, ?_⟩
    cases hp : packet.tei with
    | true =>
      rw [htei hp]
      rfl
    | false =>
      by_cases hf : (observeContinuity packet s.gate).2 = .fault
      · simp only [hf, if_true]
        rfl
      · simp only [hf, if_false]
        rfl

theorem publicPacket_left (hlive : s.live = true) (hst : s.gate.stabilizing = false)
    (hop : op.isPacket = true) : LeftStep s (step cfg s op) (observedFaults s op) := by
  cases op with
  | wireTei =>
    simp only [step, countWireTei, hlive, hst, observedFaults, Bool.not_true, Bool.false_eq_true,
      if_false]
    exact ⟨rfl, rfl, rfl, rfl⟩
  | packet packet =>
    simp only [step, enqueue, hlive, hst, Bool.not_true, Bool.false_eq_true, if_false]
    exact enqueuePublic_left hlive hst packet
  | _ => cases hop

/-- A step of a session that has left stabilization. -/
theorem GateInv.leftStep (h : GateInv policy l) (hst : l.session.gate.stabilizing = false)
    {L : StartupLog} {new : Faults} (hl : LeftStep l.session L.session new)
    (hreachedIn : L.reaching = true → L.reachedIn = L.inEvent) (hw : L.withheld = l.withheld)
    (hin : l.reachedIn ≤ L.reachedIn) (hf : L.faults = l.faults + new)
    (ha : L.faultsAfter = l.faultsAfter + new) : GateInv policy L := by
  obtain ⟨hb, hfallen, hpromoted, hbound⟩ := h.left hst
  refine ⟨hreachedIn, fun hs => ?_, fun _ => ⟨?_, fun hfb => ?_, fun hfb => ?_, fun hc => ?_⟩⟩
  · rw [hl.stabilizing] at hs; cases hs
  · rw [hl.boundary]; exact hb
  · rw [hl.fallback] at hfb
    rw [hl.faults, hf, hfallen hfb]
  · rw [hl.fallback] at hfb
    rw [hl.faults, ha, hpromoted hfb]
  · have := hbound hc
    omega

theorem publicPacket_inv (h : GateInv cfg.stabilization l) (hlive : l.session.live = true)
    (hst : l.session.gate.stabilizing = false) (hop : op.isPacket = true) :
    GateInv cfg.stabilization (l.step cfg op) := by
  have hlog : l.step cfg op = _ := step_log_packet hlive hop
  have hreach : (l.counted cfg.stabilization.maximumPackets op).reaching = l.reaching := by
    simp [StartupLog.counted, StartupLog.packet, hst]
  have hin : (l.counted cfg.stabilization.maximumPackets op).reachedIn =
      if l.reaching then l.inEvent + 1 else l.reachedIn := by
    simp [StartupLog.counted, StartupLog.packet, hst]
  rw [hlog]
  refine h.leftStep hst (publicPacket_left hlive hst hop) (fun hr => ?_) ?_ ?_ rfl ?_
  · exact hin.trans (if_pos (hreach ▸ hr))
  · simp [StartupLog.counted, StartupLog.packet, hst]
  · simp only [hin]
    split
    · rename_i hr
      have := h.reachedIn hr
      omega
    · exact Nat.le_refl _
  · simp [StartupLog.counted, hst]

/-! ### The end of a USB event -/

/-- The log of the end of a USB event. -/
theorem step_log_eventEnd (hlive : l.session.live = true) (losses : Nat)
    (publishedBefore : Bool) :
    l.step cfg (.eventEnd losses publishedBefore) = { l.endEvent losses with
      session := countSyncDeltas losses publishedBefore l.session
      faults := l.faults + { sync := losses }
      faultsAfter := if l.session.gate.stabilizing then {}
        else l.faultsAfter + { sync := losses } } := by
  simp [StartupLog.step, StartupLog.see, observedFaults, hlive, step]

theorem eventEnd_left (hlive : s.live = true) (hst : s.gate.stabilizing = false)
    (hb : s.gate.stabilizationBoundaryEstablished = true) (losses : Nat)
    (publishedBefore : Bool) :
    LeftStep s (countSyncDeltas losses publishedBefore s) { sync := losses } := by
  have hpromote (s' : Session) (h : s'.gate.stabilizing = false) : promoteReady s' = s' := by
    simp [promoteReady, h]
  unfold countSyncDeltas
  split
  · have hloss : LeftStep s (countSyncLosses losses publishedBefore s) { sync := losses } := by
      simp only [countSyncLosses, hlive, hst, hb, Bool.not_true, Bool.false_eq_true, if_false,
        Bool.true_or, if_true]
      exact ⟨hst, rfl, rfl, rfl⟩
    rw [hpromote _ hloss.stabilizing]
    exact hloss
  · rename_i hzero
    have hzero : losses = 0 := by simpa using hzero
    subst hzero
    rw [hpromote _ hst]
    exact ⟨hst, rfl, rfl, rfl⟩

/-- The gate after sync losses during startup. -/
def Startup.countLosses (g : Startup) (losses : Nat) : Startup :=
  { g with
    startupFaults := { g.startupFaults with syncErrors := g.startupFaults.syncErrors + losses }
    startupCleanPackets := 0
    stabilizationReady := false }

/-- The end of a USB event in startup: sync losses, promotion, or nothing. -/
theorem countSyncDeltas_startup (hlive : s.live = true) (hst : s.gate.stabilizing = true)
    (losses : Nat) (publishedBefore : Bool) :
    countSyncDeltas losses publishedBefore s =
      if losses ≠ 0 then { s with gate := s.gate.countLosses losses }
      else if s.gate.stabilizationReady then { s with gate := publishSession s.gate }
      else s := by
  have hterm := Session.terminal_of_live hlive
  have hatt := Session.attached_of_live hlive
  unfold countSyncDeltas
  split
  · simp [countSyncLosses, promoteReady, Startup.countLosses, Session.live, hatt, hterm, hst]
  · simp only [promoteReady, hlive, hst, Bool.not_true, Bool.or_self, Bool.false_or]
    cases s.gate.stabilizationReady <;> simp

/-- What the end of a USB event does to a stabilizing session. -/
structure StartupEnd (cfg : Config) (l : StartupLog) (losses : Nat) (publishedBefore : Bool) :
    Prop where
  inv : GateInv cfg.stabilization (l.step cfg (.eventEnd losses publishedBefore))
  empty : (l.step cfg (.eventEnd losses publishedBefore)).session.queue.count = 0
  fallback :
    (l.step cfg (.eventEnd losses publishedBefore)).session.gate.startupBudgetFallback = false
  left : (l.step cfg (.eventEnd losses publishedBefore)).session.gate.stabilizing = false ↔
    losses = 0 ∧ l.Ready cfg.stabilization

/-- The log of the end of a USB event in startup. -/
theorem step_log_startupEnd (hlive : l.session.live = true)
    (hst : l.session.gate.stabilizing = true) (losses : Nat) (publishedBefore : Bool) :
    l.step cfg (.eventEnd losses publishedBefore) = { l.endEvent losses with
      session :=
        if losses ≠ 0 then { l.session with gate := l.session.gate.countLosses losses }
        else if l.session.gate.stabilizationReady then
          { l.session with gate := publishSession l.session.gate }
        else l.session
      faults := l.faults + { sync := losses }
      faultsAfter := {} } := by
  rw [step_log_eventEnd hlive, countSyncDeltas_startup hlive hst, hst, if_pos rfl]

theorem eventEnd_losses (h : GateInv cfg.stabilization l) (hlive : l.session.live = true)
    (hst : l.session.gate.stabilizing = true) {losses : Nat} (hloss : losses ≠ 0)
    (publishedBefore : Bool) (hpolicy : 0 < cfg.stabilization.cleanPackets) :
    StartupEnd cfg l losses publishedBefore := by
  have hstab := h.stab hst
  have hlog : l.step cfg (.eventEnd losses publishedBefore) = _ :=
    step_log_startupEnd hlive hst losses publishedBefore
  rw [if_pos hloss] at hlog
  refine ⟨?_, by rw [hlog]; exact hstab.empty, by rw [hlog]; exact hstab.fallback, ?_⟩
  · rw [hlog]
    refine ⟨nofun, fun _ => ?_, fun hf => absurd hst (Bool.eq_false_iff.mp hf)⟩
    refine ⟨hstab.empty, hstab.withheld, ?_, ?_, hstab.fallback, ?_, hstab.counters,
      fun hc => ?_⟩
    · simp [StartupLog.endEvent, hloss, Startup.countLosses]
    · have : ¬cfg.stabilization.cleanPackets ≤ 0 := by omega
      simp [Startup.countLosses, Startup.ready, this]
    · show l.session.gate.startupFaults.faults + { sync := losses } = _
      rw [hstab.faults]
    · rcases hstab.bound hc with ⟨hlt, -⟩ | ⟨hle, hbound, -⟩
      · exact .inl ⟨hlt, rfl⟩
      · exact .inr ⟨hle, hbound, .inr ⟨rfl, by simp [StartupLog.endEvent, hloss]⟩⟩
  · refine iff_of_false (fun hf => ?_) fun hn => hloss hn.1
    rw [hlog] at hf
    exact absurd hst (Bool.eq_false_iff.mp hf)

theorem eventEnd_promoted (h : GateInv cfg.stabilization l) (hlive : l.session.live = true)
    (hst : l.session.gate.stabilizing = true) (publishedBefore : Bool)
    (hr : l.session.gate.stabilizationReady = true) : StartupEnd cfg l 0 publishedBefore := by
  have hstab := h.stab hst
  have hlog : l.step cfg (.eventEnd 0 publishedBefore) = _ :=
    step_log_startupEnd hlive hst 0 publishedBefore
  rw [if_neg (by simp), if_pos hr] at hlog
  refine ⟨?_, by rw [hlog]; exact hstab.empty, by rw [hlog]; exact hstab.fallback, ?_⟩
  · rw [hlog]
    refine ⟨nofun, nofun, fun _ => ⟨rfl, fun hf => ?_, fun _ => hstab.counters, fun hc => ?_⟩⟩
    · exact absurd hf (Bool.eq_false_iff.mp hstab.fallback)
    · show l.withheld ≤ cfg.stabilization.maximumPackets + l.reachedIn
      rcases hstab.bound hc with ⟨hlt, -⟩ | ⟨-, hbound, -⟩ <;> omega
  · refine iff_of_true (by rw [hlog]; rfl) ⟨rfl, (ready_iff hstab).mp ?_⟩
    rw [← hstab.ready, hr]

theorem eventEnd_waits (h : GateInv cfg.stabilization l) (hlive : l.session.live = true)
    (hst : l.session.gate.stabilizing = true) (publishedBefore : Bool)
    (hr : l.session.gate.stabilizationReady = false) : StartupEnd cfg l 0 publishedBefore := by
  have hstab := h.stab hst
  have hlog : l.step cfg (.eventEnd 0 publishedBefore) = _ :=
    step_log_startupEnd hlive hst 0 publishedBefore
  rw [if_neg (by simp), if_neg (by simp [hr])] at hlog
  refine ⟨?_, by rw [hlog]; exact hstab.empty, by rw [hlog]; exact hstab.fallback, ?_⟩
  · rw [hlog]
    refine ⟨nofun, fun _ => ?_, fun hf => absurd hst (Bool.eq_false_iff.mp hf)⟩
    refine ⟨hstab.empty, hstab.withheld, hstab.sinceFault, hstab.ready, hstab.fallback,
      hstab.faults, hstab.counters, fun hc => ?_⟩
    rcases hstab.bound hc with ⟨hlt, -⟩ | ⟨hle, hbound, ⟨-, hyes⟩ | ⟨-, hs⟩⟩
    · exact .inl ⟨hlt, rfl⟩
    · exact absurd hyes (Bool.eq_false_iff.mp hr)
    · exact .inr ⟨hle, hbound, .inr ⟨rfl, hs⟩⟩
  · refine iff_of_false (fun hf => ?_) fun hn => ?_
    · rw [hlog] at hf
      exact absurd hst (Bool.eq_false_iff.mp hf)
    · have hready := (ready_iff hstab).mpr hn.2
      rw [← hstab.ready] at hready
      exact absurd hready (Bool.eq_false_iff.mp hr)

/-- **The end of a USB event of a stabilizing session.** -/
theorem eventEnd_inv (h : GateInv cfg.stabilization l) (hlive : l.session.live = true)
    (hst : l.session.gate.stabilizing = true) (losses : Nat) (publishedBefore : Bool)
    (hpolicy : 0 < cfg.stabilization.cleanPackets) :
    StartupEnd cfg l losses publishedBefore := by
  by_cases hloss : losses = 0
  · subst hloss
    cases hr : l.session.gate.stabilizationReady with
    | true => exact eventEnd_promoted h hlive hst publishedBefore hr
    | false => exact eventEnd_waits h hlive hst publishedBefore hr
  · exact eventEnd_losses h hlive hst hloss publishedBefore hpolicy

/-! ## Runs -/

/-- A session that begins. -/
theorem GateInv.begin (hpolicy : 0 < policy.cleanPackets) (hmax : 0 < policy.maximumPackets)
    (hcount : s.queue.count = 0) (hcounters : s.counters = {})
    (hgate : s.gate = { checker := s.gate.checker }) :
    GateInv policy { session := s } := by
  have hst : s.gate.stabilizing = true := by rw [hgate]
  refine ⟨nofun, fun _ => ?_, fun hf => by rw [hst] at hf; cases hf⟩
  refine ⟨hcount, ?_, ?_, ?_, ?_, ?_, ?_, fun _ => .inl ⟨hmax, rfl⟩⟩
  · rw [hgate]
  · rw [hgate]
  · have : ¬policy.cleanPackets ≤ 0 := by omega
    rw [hgate]
    simp [Startup.ready]
  · rw [hgate]
  · rw [hgate]; rfl
  · rw [hcounters]; rfl

theorem attachSession_gate {attachment : TunerAttachment} {env : AttachEnv} {s' : Session}
    (ha : attachSession cfg attachment env s = .ok s') :
    s'.gate = { checker := s.gate.checker.reset, stabilizing := cfg.stabilization.enabled } := by
  unfold attachSession at ha
  split at ha
  · cases ha
  split at ha
  · cases ha
  split at ha
  · cases ha
  split at ha
  · cases ha
  split at ha
  · cases ha
  cases ha
  rfl

/-- What an attach does: it is refused, or a new log begins. -/
theorem attach_log (hs : SessionInv l.session) (henabled : cfg.stabilization.enabled = true)
    (attachment : TunerAttachment) (env : AttachEnv) :
    (l.step cfg (.attach attachment env) = { l with
      faultsAfter := if l.session.gate.stabilizing then {} else l.faultsAfter }) ∨
    ∃ s', l.step cfg (.attach attachment env) = { session := s' } ∧ s'.queue.count = 0 ∧
      s'.counters = {} ∧ s'.gate = { checker := s'.gate.checker } := by
  cases ha : attachSession cfg attachment env l.session with
  | error err =>
    left
    simp only [StartupLog.step, ha, step, attach_of_error ha]
    cases hlive : l.session.live <;> simp [StartupLog.see, observedFaults, hlive]
  | ok s' =>
    right
    obtain ⟨-, hcount, hcounters, -, -⟩ := hs.attachSession ha
    have hgate : s'.gate = { checker := s'.gate.checker } := by
      rw [attachSession_gate ha, henabled]
    rcases attach_of_ok ha with heq | heq
    · exact ⟨s', by simp only [StartupLog.step, ha, step, heq], hcount, hcounters, hgate⟩
    · exact ⟨startFailed s', by simp only [StartupLog.step, ha, step, heq], rfl, hcounters, hgate⟩

/-- How an operation concerns the gate. -/
theorem op_cases (s : Session) (op : Op) :
    (∃ attachment env, op = .attach attachment env) ∨
    (s.live = true ∧ op.isPacket = true) ∨
    (s.live = true ∧ ∃ losses publishedBefore, op = .eventEnd losses publishedBefore) ∨
    (op.isAttach = false ∧ (s.live = true → op.isPacket = false ∧
      ∀ losses publishedBefore, op ≠ .eventEnd losses publishedBefore)) := by
  cases hlive : s.live with
  | false =>
    cases op with
    | attach attachment env => exact .inl ⟨_, _, rfl⟩
    | _ => exact .inr (.inr (.inr ⟨rfl, nofun⟩))
  | true =>
    cases op with
    | attach attachment env => exact .inl ⟨_, _, rfl⟩
    | packet packet => exact .inr (.inl ⟨rfl, rfl⟩)
    | wireTei => exact .inr (.inl ⟨rfl, rfl⟩)
    | eventEnd losses publishedBefore => exact .inr (.inr (.inl ⟨rfl, _, _, rfl⟩))
    | _ => exact .inr (.inr (.inr ⟨rfl, fun _ => ⟨rfl, nofun⟩⟩))

/-- An operation that does not concern the gate. -/
theorem quiet_inv (h : GateInv cfg.stabilization l) (hattach : op.isAttach = false)
    (hop : l.session.live = true → op.isPacket = false ∧
      ∀ losses publishedBefore, op ≠ .eventEnd losses publishedBefore) :
    GateInv cfg.stabilization (l.step cfg op) := by
  rw [step_log_quiet hattach hop]
  exact h.keep (step_gateQuiet hattach hop) _ fun hst => by simp [hst]

variable (henabled : cfg.stabilization.enabled = true)

include henabled

/-- **Every operation** keeps the gate and the log together. -/
theorem GateInv.step (h : GateInv cfg.stabilization l) (hs : SessionInv l.session) (op : Op) :
    GateInv cfg.stabilization (l.step cfg op) := by
  obtain ⟨hmin, hclean, hmax, -⟩ := cfg.policy_ok henabled
  rcases op_cases l.session op with ⟨attachment, env, rfl⟩ | ⟨hlive, hop⟩ |
    ⟨hlive, losses, publishedBefore, rfl⟩ | ⟨hattach, hop⟩
  · rcases attach_log hs henabled attachment env with heq | ⟨s', heq, hcount, hcounters, hgate⟩
    · rw [heq]
      exact h.keep ⟨rfl, rfl, Nat.le_refl _⟩ _ fun hst => by simp [hst]
    · rw [heq]
      exact GateInv.begin hclean (by omega) hcount hcounters hgate
  · cases hst : l.session.gate.stabilizing with
    | true => exact (startupPacket_inv h hlive hst hop).inv
    | false => exact publicPacket_inv h hlive hst hop
  · cases hst : l.session.gate.stabilizing with
    | true => exact (eventEnd_inv h hlive hst losses publishedBefore hclean).inv
    | false =>
      rw [step_log_eventEnd hlive]
      refine h.leftStep hst (eventEnd_left hlive hst (h.left hst).boundary losses publishedBefore)
        nofun rfl (Nat.le_refl _) rfl ?_
      simp [hst]
  · exact quiet_inv h hattach hop

omit henabled in
theorem StartupLog.step_session (l : StartupLog) (op : Op) :
    (l.step cfg op).session = Stream.step cfg l.session op := by
  cases op with
  | attach attachment env =>
    simp only [StartupLog.step]
    split <;> rfl
  | _ => rfl

theorem gateInv_run (ops : List Op) :
    SessionInv (StartupLog.run cfg ops).session ∧
      GateInv cfg.stabilization (StartupLog.run cfg ops) := by
  obtain ⟨hmin, hclean, hmax, -⟩ := cfg.policy_ok henabled
  have hstep (l : StartupLog) (op : Op)
      (h : SessionInv l.session ∧ GateInv cfg.stabilization l) :
      SessionInv (l.step cfg op).session ∧ GateInv cfg.stabilization (l.step cfg op) :=
    ⟨by rw [StartupLog.step_session]; exact h.1.step cfg op, h.2.step henabled h.1 op⟩
  exact Lib.foldl_inv hstep ops
    ⟨sessionInv_init, GateInv.begin hclean (by omega) rfl rfl rfl⟩

omit henabled in
theorem GateInv.bounded (h : GateInv policy l) (hclean : 2 ≤ policy.cleanPackets) :
    l.withheld ≤ policy.maximumPackets + l.reachedIn + 1 := by
  cases hst : l.session.gate.stabilizing with
  | true => rcases (h.stab hst).bound hclean with ⟨hlt, -⟩ | ⟨-, hbound, -⟩ <;> omega
  | false =>
    have := (h.left hst).bound hclean
    omega

omit henabled in
/-- An operation that does not concern the gate. -/
theorem gateStep_quiet (h : GateInv cfg.stabilization l)
    (hbound : (l.step cfg op).withheld ≤
      cfg.stabilization.maximumPackets + (l.step cfg op).reachedIn + 1)
    (hattach : op.isAttach = false) (hop : l.session.live = true → op.isPacket = false ∧
      ∀ losses publishedBefore, op ≠ .eventEnd losses publishedBefore) :
    GateStep cfg l op := by
  have hq : GateQuiet l.session (l.step cfg op).session := by
    rw [StartupLog.step_session]
    exact step_gateQuiet hattach hop
  refine ⟨fun hst => ?_, fun hst hf => ?_, fun hst hfb => ?_, fun hlive _ hp => ?_,
    fun hlive _ losses pb heq => ?_, fun hf hst => ?_, hbound⟩
  · have hempty := (h.stab hst).empty
    have hcount := hq.count
    exact ⟨hempty, by omega⟩
  · rw [hq.gate] at hf; exact absurd hst (Bool.eq_false_iff.mp hf)
  · rw [hq.gate, (h.stab hst).fallback] at hfb; cases hfb
  · rw [(hop hlive).1] at hp; cases hp
  · exact absurd heq ((hop hlive).2 losses pb)
  · rw [hq.gate] at hst; exact absurd hst (Bool.eq_false_iff.mp hf)

theorem gateStep_attach (h : GateInv cfg.stabilization l) (hs : SessionInv l.session)
    (attachment : TunerAttachment) (env : AttachEnv)
    (hbound : (l.step cfg (.attach attachment env)).withheld ≤ cfg.stabilization.maximumPackets +
      (l.step cfg (.attach attachment env)).reachedIn + 1) :
    GateStep cfg l (.attach attachment env) := by
  rcases attach_log hs henabled attachment env with heq | ⟨s', heq, hcount, -, hgate⟩
  · refine ⟨fun hst => ?_, fun hst hf => ?_, fun hst hfb => ?_, fun _ _ => nofun, nofun,
      fun _ _ => ⟨_, _, rfl⟩, hbound⟩
    · rw [heq]; exact ⟨(h.stab hst).empty, (h.stab hst).empty⟩
    · rw [heq] at hf; exact absurd hst (Bool.eq_false_iff.mp hf)
    · rw [heq] at hfb; exact absurd hfb (Bool.eq_false_iff.mp (h.stab hst).fallback)
  · refine ⟨fun hst => ?_, fun hst hf => ?_, fun hst hfb => ?_, fun _ _ => nofun, nofun,
      fun _ _ => ⟨_, _, rfl⟩, hbound⟩
    · rw [heq]; exact ⟨(h.stab hst).empty, hcount⟩
    · rw [heq, hgate] at hf; cases hf
    · rw [heq, hgate] at hfb; cases hfb

omit henabled in
/-- A session that has left stabilization and does not return to it. -/
theorem gateStep_left (hst : l.session.gate.stabilizing = false)
    (hleft : (step cfg l.session op).gate.stabilizing = false)
    (hbound : (l.step cfg op).withheld ≤
      cfg.stabilization.maximumPackets + (l.step cfg op).reachedIn + 1) :
    GateStep cfg l op := by
  have hnot {P : Prop} (hs : l.session.gate.stabilizing = true) : P :=
    absurd hs (Bool.eq_false_iff.mp hst)
  refine ⟨hnot, hnot, hnot, fun _ => hnot, fun _ => hnot, fun _ hs => ?_, hbound⟩
  rw [StartupLog.step_session] at hs
  exact absurd hs (Bool.eq_false_iff.mp hleft)

omit henabled in
theorem gateStep_packet (h : GateInv cfg.stabilization l) (hlive : l.session.live = true)
    (hop : op.isPacket = true) (hbound : (l.step cfg op).withheld ≤
      cfg.stabilization.maximumPackets + (l.step cfg op).reachedIn + 1) :
    GateStep cfg l op := by
  cases hst : l.session.gate.stabilizing with
  | true =>
    have hp := startupPacket_inv h hlive hst hop
    refine ⟨fun _ => ⟨(h.stab hst).empty, hp.empty⟩, fun _ hleft hfb => ?_, fun _ _ => hop,
      fun _ _ _ => ⟨hp.fallback, hp.left⟩, fun _ _ losses pb heq => ?_,
      fun hf => absurd hst (Bool.eq_false_iff.mp hf), hbound⟩
    · rw [hp.left.mp hleft] at hfb; cases hfb
    · rw [heq] at hop; cases hop
  | false => exact gateStep_left hst (publicPacket_left hlive hst hop).stabilizing hbound

theorem gateStep_eventEnd (h : GateInv cfg.stabilization l) (hlive : l.session.live = true)
    (losses : Nat) (publishedBefore : Bool)
    (hbound : (l.step cfg (.eventEnd losses publishedBefore)).withheld ≤
      cfg.stabilization.maximumPackets +
        (l.step cfg (.eventEnd losses publishedBefore)).reachedIn + 1) :
    GateStep cfg l (.eventEnd losses publishedBefore) := by
  cases hst : l.session.gate.stabilizing with
  | true =>
    obtain ⟨-, hpos, -⟩ := cfg.policy_ok henabled
    have hp := eventEnd_inv h hlive hst losses publishedBefore hpos
    refine ⟨fun _ => ⟨(h.stab hst).empty, hp.empty⟩, fun _ hleft _ => ?_, fun _ hfb => ?_,
      fun _ _ => nofun, fun _ _ losses' pb heq => ?_,
      fun hf => absurd hst (Bool.eq_false_iff.mp hf), hbound⟩
    · obtain ⟨hzero, hready⟩ := hp.left.mp hleft
      exact ⟨⟨publishedBefore, by rw [hzero]⟩, hready⟩
    · rw [hp.fallback] at hfb; cases hfb
    · cases heq
      exact hp.left
  | false =>
    exact gateStep_left hst (eventEnd_left hlive hst (h.left hst).boundary losses
      publishedBefore).stabilizing hbound

/-- **Every step** of the gate. -/
theorem gateStep_of_inv (hclean : 2 ≤ cfg.stabilization.cleanPackets)
    (h : GateInv cfg.stabilization l) (hs : SessionInv l.session) (op : Op) :
    GateStep cfg l op := by
  have hbound := (h.step henabled hs op).bounded hclean
  rcases op_cases l.session op with ⟨attachment, env, rfl⟩ | ⟨hlive, hop⟩ |
    ⟨hlive, losses, publishedBefore, rfl⟩ | ⟨hattach, hop⟩
  · exact gateStep_attach henabled h hs attachment env hbound
  · exact gateStep_packet h hlive hop hbound
  · exact gateStep_eventEnd henabled h hlive losses publishedBefore hbound
  · exact gateStep_quiet h hbound hattach hop

end

/-- **The startup gate**, at every step of every run of a session under an enabled policy with a
clean tail of at least two packets. -/
theorem startup_gate (cfg : Config) (henabled : cfg.stabilization.enabled = true)
    (hclean : 2 ≤ cfg.stabilization.cleanPackets) (ops : List Op) (op : Op) :
    GateStep cfg (StartupLog.run cfg ops) op := by
  obtain ⟨hs, h⟩ := gateInv_run henabled ops
  exact gateStep_of_inv henabled hclean h hs op

/-- The gate of the default configuration at the first packet of an attached session. -/
theorem startup_gate_default :
    (StartupLog.run q3u4Config [.attach firstClient calmEnv]).session.live = true ∧
      GateStep q3u4Config (StartupLog.run q3u4Config [.attach firstClient calmEnv])
        (.packet markerPacket) :=
  ⟨by decide, startup_gate q3u4Config (by decide) (by decide) _ _⟩

/-- **The fault counters.** After a fallback they are all faults since the attach, after a promotion
those since the promotion. -/
theorem startup_faults (cfg : Config) (henabled : cfg.stabilization.enabled = true)
    (ops : List Op) :
    let l := StartupLog.run cfg ops
    l.session.gate.stabilizing = false →
      (l.session.gate.startupBudgetFallback = true → l.session.counters.faults = l.faults) ∧
      (l.session.gate.startupBudgetFallback = false →
        l.session.counters.faults = l.faultsAfter) := by
  intro l hst
  have hleft := (gateInv_run henabled ops).2.left hst
  exact ⟨hleft.fallen, hleft.promoted⟩

/-- A wire mark that spends the budget, and sync losses at the end of the same USB event. -/
theorem startup_faults_fallback :
    let l := StartupLog.run promptConfig
      [.attach firstClient calmEnv, .wireTei, .eventEnd 2 false]
    l.faults = ⟨1, 0, 2⟩ ∧ l.session.counters.faults = l.faults :=
  ⟨by decide, (startup_faults promptConfig (by decide) _ (by decide)).1 (by decide)⟩

end Px4.Stream
