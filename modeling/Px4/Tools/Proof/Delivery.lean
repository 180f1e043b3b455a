import Px4.Tools.Proof.BatchedOutput

/-!
# What is written in a whole run

* `Idle.run`, `Halted.run`, `Dead.run`: runs from each kind of state.
* `batched_output`: runs of a fresh output.
-/

namespace Px4.Tools

open Lib (Program)
open Lib.Program (After)

/-- The bytes given up to the first call that has failed, with those of that call. -/
def givenBy : List (Call × Except Stop Unit) → List UInt8
  | [] => []
  | (call, .ok _) :: results => call.bytes ++ givenBy results
  | (call, .error _) :: _ => call.bytes

/-- Nothing has failed, but for calls that the stop signal has ended. -/
def Clean (results : List (Call × Except Stop Unit)) : Prop :=
  ∀ p ∈ results, p.2 = .ok () ∨ p.2 = .error (.failure .timeout)

instance (results : List (Call × Except Stop Unit)) : Decidable (Clean results) :=
  inferInstanceAs (Decidable (∀ p ∈ results, _))

/-- All calls have succeeded. -/
def Succeeded (results : List (Call × Except Stop Unit)) : Prop := ∀ p ∈ results, p.2 = .ok ()

/-- The descriptor is a FIFO or an `AF_UNIX` stream socket, which the output writes packet by packet
when stopped. -/
def Probe.Packetwise (probe : Probe) : Prop :=
  probe.firstStat = some .fifo ∨
    probe.secondStat = some .socket ∧ probe.stream = some true ∧ probe.unix = some true

/-! ## Runs -/

section

variable {fuel : Nat} {call : Call} {calls : List Call} {w w' : World}

theorem runCalls_ok (h : (call.run fuel).exec w = (.ok (), w')) :
    runCalls fuel (call :: calls) w =
      ((call, .ok ()) :: (runCalls fuel calls w').1, (runCalls fuel calls w').2) := by
  rw [runCalls, h]

theorem runCalls_failure {e : Error} (h : (call.run fuel).exec w = (.error (.failure e), w')) :
    runCalls fuel (call :: calls) w =
      ((call, .error (.failure e)) :: (runCalls fuel calls w').1, (runCalls fuel calls w').2) := by
  rw [runCalls, h]

theorem runCalls_undefined (h : (call.run fuel).exec w = (.error .undefined, w')) :
    runCalls fuel (call :: calls) w = ([(call, .error .undefined)], w') := by
  rw [runCalls, h]

end

/-- What holds of a run with `given` to be handed over, whatever its calls come to. -/
structure Bounded (k : Kind) (given : List UInt8)
    (results : List (Call × Except Stop Unit)) (w : World) :
    Prop extends Sane k w where
  handed : handed w.system.log <+: given
  clean : Clean results → ∃ rest, Idle k rest w

variable {k : Kind} {given : List UInt8} {w : World}

theorem Idle.handed_prefix (h : Idle k given w) : handed w.system.log <+: given := by
  rw [← h.given]
  exact List.prefix_append _ _

/-- Nothing is done by an output that is no more. -/
theorem Dead.run (h : Dead k given w) (fuel : Nat) (calls : List Call) :
    (runCalls fuel calls w).2 = w ∧ (calls ≠ [] → ¬Clean (runCalls fuel calls w).1) := by
  induction calls with
  | nil => exact ⟨rfl, fun h => absurd rfl h⟩
  | cons call calls ih =>
    obtain ⟨e, hexec, he⟩ := h.call fuel call
    rw [runCalls_failure hexec]
    refine ⟨ih.1, fun _ hclean => ?_⟩
    obtain hok | htimeout := hclean _ List.mem_cons_self
    · cases hok
    · cases htimeout
      exact he rfl

/-- A call that has failed has not ended the run cleanly, unless by the stop signal. -/
theorem Clean.failure {results : List (Call × Except Stop Unit)} {call : Call} {reason : Stop}
    (h : Clean ((call, .error reason) :: results)) : reason = .failure .timeout := by
  obtain hok | htimeout := h _ List.mem_cons_self
  · cases hok
  · cases htimeout
    rfl

theorem Clean.tail {results : List (Call × Except Stop Unit)} {p : Call × Except Stop Unit}
    (h : Clean (p :: results)) : Clean results := fun p hp => h p (List.mem_cons_of_mem _ hp)

/-- A run goes on after a call that has failed, if runs after the stop signal do. -/
theorem Ended.run {reason : Stop} (h : Ended k given reason w) {fuel : Nat} {call : Call}
    {calls : List Call} {w₀ : World} (hexec : (call.run fuel).exec w₀ = (.error reason, w))
    (hhalted : Halted k given w → Bounded k given (runCalls fuel calls w).1
      (runCalls fuel calls w).2) :
    Bounded k given (runCalls fuel (call :: calls) w₀).1 (runCalls fuel (call :: calls) w₀).2 ∧
      ∃ results, (runCalls fuel (call :: calls) w₀).1 = (call, .error reason) :: results := by
  obtain ⟨rfl, hhalt⟩ | ⟨rfl, hfailed⟩ | rfl := h.cause
  · rw [runCalls_failure hexec]
    have hrest := hhalted hhalt
    exact ⟨⟨hrest.toSane, hrest.handed, fun hclean => hrest.clean hclean.tail⟩, _, rfl⟩
  · have hdead : Dead k given w := ⟨h.toSane, h.handed, .inr hfailed⟩
    rw [runCalls_failure hexec]
    refine ⟨?_, _, rfl⟩
    rw [(hdead.run fuel calls).1]
    exact ⟨h.toSane, h.handed, fun hclean => nomatch hclean.failure⟩
  · rw [runCalls_undefined hexec]
    exact ⟨⟨h.toSane, h.handed, fun hclean => nomatch hclean.failure⟩, _, rfl⟩

/-- Runs after the stop signal has ended a call. -/
theorem Halted.run (h : Halted k given w) (fuel : Nat) (calls : List Call) :
    Bounded k given (runCalls fuel calls w).1 (runCalls fuel calls w).2 := by
  induction calls generalizing w with
  | nil =>
    obtain ⟨⟨rest, hidle, hrest⟩, -⟩ := h
    exact ⟨hidle.toSane, hidle.handed_prefix.trans hrest, fun _ => ⟨rest, hidle⟩⟩
  | cons call calls ih =>
    have hcall := h.call fuel call
    cases hexec : (call.run fuel).exec w with | mk outcome w' =>
    cases outcome with
    | ok u =>
      have hrest := ih (hcall.ok hexec)
      rw [runCalls_ok hexec]
      exact ⟨hrest.toSane, hrest.handed, fun hclean => hrest.clean hclean.tail⟩
    | error reason => exact ((hcall.error hexec).run hexec ih).1

/-- Runs before any call has failed. -/
theorem Idle.run (h : Idle k given w) (fuel : Nat) (calls : List Call) :
    let r := runCalls fuel calls w
    Bounded k (given ++ givenBy r.1) r.1 r.2 ∧
      (Succeeded r.1 → Idle k (given ++ calls.flatMap Call.bytes) r.2 ∧
        (calls.getLast? = some .finish → r.2.output.buffer = [])) := by
  induction calls generalizing given w with
  | nil =>
    refine ⟨⟨h.toSane, ?_, fun _ => ⟨given, h⟩⟩, fun _ => ⟨?_, nofun⟩⟩
    · show handed w.system.log <+: given ++ []
      rw [List.append_nil]
      exact h.handed_prefix
    · show Idle k (given ++ []) w
      rwa [List.append_nil]
  | cons call calls ih =>
    dsimp only at ih ⊢
    have hcall := h.call fuel call
    cases hexec : (call.run fuel).exec w with | mk outcome w' =>
    cases outcome with
    | ok u =>
      obtain ⟨hidle, hempty⟩ := hcall.ok hexec
      obtain ⟨hrest, hall⟩ := ih hidle
      rw [runCalls_ok hexec]
      constructor
      · refine ⟨hrest.toSane, ?_, fun hclean => hrest.clean hclean.tail⟩
        have hhanded := hrest.handed
        rwa [List.append_assoc] at hhanded
      · intro hok
        obtain ⟨hidle', hempty'⟩ := hall fun p hp => hok p (List.mem_cons_of_mem _ hp)
        rw [List.append_assoc] at hidle'
        refine ⟨hidle', fun hlast => ?_⟩
        cases calls with
        | nil => exact hempty (Option.some.inj hlast)
        | cons next calls => exact hempty' (by rwa [List.getLast?_cons_cons] at hlast)
    | error reason =>
      have hended := hcall.error hexec
      obtain ⟨hbounded, results, hresults⟩ := hended.run hexec fun hhalted => hhalted.run fuel calls
      have hgiven : givenBy (runCalls fuel (call :: calls) w).1 = call.bytes := by
        rw [hresults]
        rfl
      rw [hgiven]
      refine ⟨hbounded, fun hok => ?_⟩
      rw [hresults] at hok
      cases hok _ List.mem_cons_self

/-! ## Fresh outputs -/

/-- How a fresh output does its writes when it is stopped. -/
def kindOf (probe : Probe) : Kind where
  boundary := (Px4TsBatchedFdOutput.construct probe).packetBoundaryWrites
  completes := (Px4TsBatchedFdOutput.construct probe).socketStreamWrites
  boundary_of_completes := by
    unfold Px4TsBatchedFdOutput.construct
    split_ifs <;> simp

theorem construct_cases (probe : Probe) :
    Px4TsBatchedFdOutput.construct probe = {} ∨
      (Px4TsBatchedFdOutput.construct probe).ready = true ∧
      (Px4TsBatchedFdOutput.construct probe).failed = false ∧
      (Px4TsBatchedFdOutput.construct probe).writtenPackets = 0 ∧
      (Px4TsBatchedFdOutput.construct probe).buffer = [] ∧
      (probe.Packetwise → (Px4TsBatchedFdOutput.construct probe).packetBoundaryWrites = true) := by
  unfold Px4TsBatchedFdOutput.construct Probe.Packetwise
  split_ifs <;> simp_all

/-- **Runs of an output.** Whatever the system calls return and whenever the stop signal is set:
what is handed over is a prefix of the packets given up to the first call that has failed; it is all
of them if no call has, the last one being `finish`; its whole packets are counted; and after a
clean stop it ends with a packet, for a FIFO or an `AF_UNIX` stream socket with the last one begun
before the stop. -/
theorem batched_output (fuel : Nat) (probe : Probe) (answer : Log → (q : Ask) → q.Answer)
    (h : Persistent answer) (calls : List Call) :
    let r := runCalls fuel calls ⟨.construct probe, [], answer⟩
    let bytes := handed r.2.system.log
    bytes <+: givenBy r.1 ∧
    (Succeeded r.1 → calls.getLast? = some .finish → bytes = calls.flatMap Call.bytes) ∧
    r.2.output.writtenPackets = UInt64.ofNat (bytes.length / 188) ∧
    (Clean r.1 → bytes.length % 188 = 0 ∧
      (probe.Packetwise → bytes.length = 188 *
        begun (handed (beforeStop r.2.system.log)).length)) := by
  dsimp only
  have hzero : UInt64.ofNat ((handed []).length / 188) = 0 := by simp [handed]
  obtain hnone | ⟨hready, hfailed, hpackets, hbuffer, hpacketwise⟩ := construct_cases probe
  · have hsane : Sane (kindOf probe) ⟨.construct probe, [], answer⟩ :=
      ⟨h, rfl, rfl, by rw [hzero, hnone]⟩
    have hdead : Dead (kindOf probe) [] ⟨.construct probe, [], answer⟩ :=
      ⟨hsane, List.nil_prefix, .inl (by rw [hnone])⟩
    obtain ⟨hsame, hclean⟩ := hdead.run fuel calls
    rw [hsame]
    refine ⟨List.nil_prefix, fun hok hlast => ?_, hsane.packets,
      fun _ => ⟨rfl, fun _ => by simp [handed, begun, beforeStop]⟩⟩
    refine absurd (fun p hp => .inl (hok p hp)) (hclean ?_)
    rintro rfl
    cases hlast
  · have hidle : Idle (kindOf probe) [] ⟨.construct probe, [], answer⟩ :=
      { persistent := h
        boundary := rfl
        completes := rfl
        packets := hpackets.trans hzero.symm
        ready := hready
        failed := hfailed
        given := hbuffer
        handed_whole := rfl
        buffer_whole := by rw [hbuffer]; rfl
        rounded := fun _ => rfl }
    obtain ⟨hbounded, hall⟩ := hidle.run fuel calls
    refine ⟨hbounded.handed, fun hok hlast => ?_, hbounded.packets, fun hclean => ?_⟩
    · obtain ⟨hdone, hempty⟩ := hall hok
      have hgiven := hdone.given
      rwa [hempty hlast, List.append_nil] at hgiven
    · obtain ⟨rest, hrest⟩ := hbounded.clean hclean
      have hwhole := hrest.handed_whole
      refine ⟨hwhole, fun hprobe => ?_⟩
      rw [← hrest.rounded (hpacketwise hprobe)]
      unfold begun
      omega

/-- A system that takes a hundred bytes at a time, with a stop signal after the first ones. -/
def halting : Log → (q : Ask) → q.Answer
  | _, .write values => .ok ⟨min 100 values.length, Nat.min_le_right _ _⟩
  | _, .poll => .ok .timeout
  | log, .stopRequested => log.any isStop || log.any fun e => !(handedBy e).isEmpty

theorem batched_output_socket :
    let packet := Call.write ⟨List.replicate 188 0x47, List.length_replicate⟩
    let r := runCalls 9 [packet, packet, .finish, packet]
      ⟨.construct ⟨3, 0, 0, some .socket, -1, some .socket, some true, some true⟩, [], halting⟩
    Clean r.1 ∧ (handed r.2.system.log).length = 188 ∧ r.2.output.writtenPackets = 1 := by
  intro packet
  have hrun := batched_output 9 ⟨3, 0, 0, some .socket, -1, some .socket,
    some true, some true⟩ halting
    (fun log hseen => Bool.or_eq_true_iff.2 (.inl hseen)) [packet, packet, .finish, packet]
  have hclean : Clean (runCalls 9 [packet, packet, .finish, packet]
      ⟨.construct ⟨3, 0, 0, some .socket, -1, some .socket, some true, some true⟩,
        [], halting⟩).1 := by
    decide +kernel
  have hbegun : begun (handed (beforeStop (runCalls 9 [packet, packet, .finish, packet]
      ⟨.construct ⟨3, 0, 0, some .socket, -1, some .socket, some true, some true⟩,
        [], halting⟩).2.system.log)).length = 1 := by
    decide +kernel
  dsimp only at hrun ⊢
  generalize runCalls 9 [packet, packet, .finish, packet] _ = r at hrun hclean hbegun ⊢
  obtain ⟨-, -, hpackets, hstop⟩ := hrun
  have hlength : (handed r.2.system.log).length = 188 := by
    rw [(hstop hclean).2 (.inr ⟨rfl, rfl, rfl⟩), hbegun]
  refine ⟨hclean, hlength, ?_⟩
  rw [hpackets, hlength]
  rfl

/-- A stream socket that is not one of `AF_UNIX`. -/
def inetSocket : Probe := ⟨3, 0, 0, some .socket, -1, some .socket, some true, some false⟩

/-- A system that takes everything, with a stop signal that is set after it has been asked for
twice. -/
def late : Log → (q : Ask) → q.Answer
  | _, .write values => .ok ⟨values.length, Nat.le_refl _⟩
  | _, .poll => .ok .timeout
  | log, .stopRequested => log.any isStop || 2 ≤ log.length

/-- Another stream socket is written batch by batch: after the stop signal has ended the third
`write`, `finish` still hands over both packets of the batch, neither of them begun before. -/
theorem batched_output_inet :
    let packet := Call.write ⟨List.replicate 188 0x47, List.length_replicate⟩
    let r := runCalls 9 [packet, packet, packet, .finish] ⟨.construct inetSocket, [], late⟩
    Persistent late ∧ Clean r.1 ∧ (handed r.2.system.log).length = 2 * 188 ∧
      (handed r.2.system.log).length ≠ 188 * begun (handed (beforeStop r.2.system.log)).length := by
  intro packet
  refine ⟨fun log hseen => Bool.or_eq_true_iff.2 (.inl hseen), ?_⟩
  decide +kernel

end Px4.Tools
