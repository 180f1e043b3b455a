import Px4.Tools.BatchedOutput
import Px4.Lib.Hoare

/-!
# What is written of a batch

* `Mid`: what holds inside of `flush_buffer`.
* `flushRound_spec`: a round keeps it, or ends the call.
* `flushBuffer_spec`: all that a flush can do.
-/

namespace Px4.Tools

open Lib (Program)
open Lib.Program (After)

/-! ## Logs -/

/-- Questions with their answers. -/
abbrev Log := List (Sigma Ask.Answer)

/-- The bytes handed to the operating system by a question. -/
def handedBy : Sigma Ask.Answer → List UInt8
  | ⟨.write values, .ok written⟩ => values.take written.val
  | _ => []

/-- The bytes handed to the operating system. -/
def handed (log : Log) : List UInt8 := log.flatMap handedBy

/-- The stop signal is set. -/
def isStop : Sigma Ask.Answer → Bool
  | ⟨.stopRequested, true⟩ => true
  | _ => false

/-- The stop signal has been seen. -/
def Seen (log : Log) : Prop := log.any isStop = true

/-- The log up to where the stop signal has been seen. -/
def beforeStop (log : Log) : Log := log.takeWhile fun e => !isStop e

/-- The stop signal, once set, stays set. -/
def Persistent (answer : Log → (q : Ask) → q.Answer) : Prop :=
  ∀ log, Seen log → answer log .stopRequested = true

/-- The number of packets that so many bytes have begun. -/
def begun (size : Nat) : Nat := (size + 187) / 188

/-- No packet has been begun after the stop signal has been seen. -/
def Rounded (log : Log) : Prop := begun (handed log).length = begun (handed (beforeStop log)).length

theorem handed_append (log : Log) (e : Sigma Ask.Answer) :
    handed (log ++ [e]) = handed log ++ handedBy e := by
  simp [handed]

theorem seen_append (log : Log) (e : Sigma Ask.Answer) :
    Seen (log ++ [e]) ↔ Seen log ∨ isStop e = true := by
  simp [Seen]

theorem beforeStop_append {log : Log} (h : ¬Seen log) (rest : Log) :
    beforeStop (log ++ rest) = log ++ beforeStop rest := by
  refine List.takeWhile_append_of_pos fun e he => ?_
  cases hstop : isStop e with
  | false => rfl
  | true => exact absurd (List.any_eq_true.2 ⟨e, he, hstop⟩) h

theorem beforeStop_of_seen {log : Log} (h : Seen log) (e : Sigma Ask.Answer) :
    beforeStop (log ++ [e]) = beforeStop log := by
  unfold beforeStop Seen at *
  induction log with
  | nil => cases h
  | cons e' log ih =>
    rw [List.cons_append, List.takeWhile_cons, List.takeWhile_cons]
    cases hstop : isStop e' with
    | true => rfl
    | false =>
      rw [List.any_cons, hstop, Bool.false_or] at h
      simp only [Bool.not_false, if_true]
      rw [ih h]

theorem rounded_of_not_seen {log : Log} (h : ¬Seen log) : Rounded log := by
  have hbefore := beforeStop_append h []
  rw [List.append_nil] at hbefore
  rw [Rounded, hbefore]
  exact congrArg (fun log => begun (handed log).length) (List.append_nil log).symm

/-- A question that hands over nothing begins no packet. -/
theorem Rounded.append {log : Log} (h : Rounded log) {e : Sigma Ask.Answer} (he : handedBy e = []) :
    Rounded (log ++ [e]) := by
  by_cases hseen : Seen log
  · rw [Rounded, beforeStop_of_seen hseen, handed_append, he, List.append_nil]
    exact h
  · by_cases hstop : isStop e = true
    · have hbefore : beforeStop [e] = [] := by simp [beforeStop, hstop]
      rw [Rounded, beforeStop_append hseen, hbefore, handed_append, he,
        List.append_nil, List.append_nil]
    · refine rounded_of_not_seen ?_
      rw [seen_append]
      exact not_or.2 ⟨hseen, hstop⟩

/-! ## Questions -/

/-- A world after a question. -/
def World.asked (w : World) (q : Ask) (answer : q.Answer) : World :=
  { w with system := { w.system with log := w.system.log ++ [⟨q, answer⟩] } }

@[simp] theorem asked_output (w : World) (q : Ask) (answer : q.Answer) :
    (w.asked q answer).output = w.output := rfl

@[simp] theorem asked_log (w : World) (q : Ask) (answer : q.Answer) :
    (w.asked q answer).system.log = w.system.log ++ [⟨q, answer⟩] := rfl

@[simp] theorem asked_answer (w : World) (q : Ask) (answer : q.Answer) :
    (w.asked q answer).system.answer = w.system.answer := rfl

theorem after_ask {q : Ask} {w : World} {Q : q.Answer → World → Prop} {R : Stop → World → Prop}
    (h : ∀ answer, w.system.answer w.system.log q = answer → Q answer (w.asked q answer)) :
    After (ask q) w Q R := h _ rfl

theorem after_update {f : Px4TsBatchedFdOutput → Px4TsBatchedFdOutput} {w : World}
    {Q : PUnit → World → Prop} {R : Stop → World → Prop} :
    After (update f) w Q R ↔ Q ⟨⟩ { w with output := f w.output } := Iff.rfl

/-! ## Inside of a flush -/

/-- What an output does when it is stopped: it stops at packet boundaries (`boundary`), and it
completes packets (`completes`). -/
structure Kind where
  boundary : Bool
  completes : Bool
  boundary_of_completes : completes = true → boundary = true

/-- A flush of `buffer` after `start` has been handed over; `seen` if the stop signal has been. -/
structure Batch extends Kind where
  start : List UInt8
  buffer : List UInt8
  start_whole : start.length % 188 = 0
  buffer_whole : buffer.length % 188 = 0
  seen : Bool

/-- All that is to be handed over in the end. -/
def Batch.whole (b : Batch) : List UInt8 := b.start ++ b.buffer

/-- What always holds of an output. -/
structure Sane (k : Kind) (w : World) : Prop where
  persistent : Persistent w.system.answer
  boundary : w.output.packetBoundaryWrites = k.boundary
  completes : w.output.socketStreamWrites = k.completes
  packets : w.output.writtenPackets = UInt64.ofNat ((handed w.system.log).length / 188)

/-- `offset` bytes of the batch have been handed over. -/
structure Mid (b : Batch) (offset : Nat) (w : World) : Prop extends Sane b.toKind w where
  ready : w.output.ready = true
  failed : w.output.failed = false
  buffer : w.output.buffer = b.buffer
  handed : handed w.system.log = b.start ++ b.buffer.take offset
  offset_le : offset ≤ b.buffer.length
  rounded : b.boundary = true → Rounded w.system.log
  seen : b.seen = true → Seen w.system.log

/-- Between calls: `given` is what has been handed over and what is in the buffer. -/
structure Idle (k : Kind) (given : List UInt8) (w : World) : Prop extends Sane k w where
  ready : w.output.ready = true
  failed : w.output.failed = false
  given : handed w.system.log ++ w.output.buffer = given
  handed_whole : (handed w.system.log).length % 188 = 0
  buffer_whole : w.output.buffer.length % 188 = 0
  rounded : k.boundary = true → Rounded w.system.log

/-- Between calls, after one that the stop signal has ended. -/
structure Halted (k : Kind) (given : List UInt8) (w : World) : Prop where
  idle : ∃ rest, Idle k rest w ∧ rest <+: given
  seen : Seen w.system.log

/-- A call has failed for that reason. -/
structure Ended (k : Kind) (given : List UInt8) (reason : Stop) (w : World) :
    Prop extends Sane k w where
  handed : handed w.system.log <+: given
  cause : reason = .failure .timeout ∧ Halted k given w ∨
    reason = .failure .internal ∧ w.output.failed = true ∨ reason = .undefined

/-- The next write begins no packet after the stop signal has been seen. -/
def Free (b : Batch) (offset : Nat) (w : World) : Prop :=
  b.boundary = true → Seen w.system.log → b.completes = true ∧ offset % 188 ≠ 0

/-- The next round, if there is one, may begin. -/
def Next (b : Batch) (next : Nat × Nat) (w : World) : Prop :=
  Mid b next.1 w ∧ (next.1 < b.buffer.length → Free b next.1 w)

variable {b : Batch} {offset : Nat} {w : World}

namespace Mid

theorem handed_length (h : Mid b offset w) :
    (Tools.handed w.system.log).length = b.start.length + offset := by
  rw [h.handed, List.length_append, List.length_take, Nat.min_eq_left h.offset_le]

theorem isPrefix_handed (h : Mid b offset w) : Tools.handed w.system.log <+: b.whole := by
  rw [h.handed]
  exact (List.prefix_append_right_inj _).2 (List.take_prefix _ _)

/-- A question that hands nothing over. -/
theorem asked (h : Mid b offset w) {q : Ask} {answer : q.Answer}
    (hnone : handedBy ⟨q, answer⟩ = []) :
    Mid b offset (w.asked q answer) where
  persistent := h.persistent
  ready := h.ready
  failed := h.failed
  boundary := h.boundary
  completes := h.completes
  buffer := h.buffer
  handed := by rw [asked_log, handed_append, hnone, List.append_nil, h.handed]
  offset_le := h.offset_le
  packets := by rw [asked_log, handed_append, hnone, List.append_nil, asked_output, h.packets]
  rounded := fun hb => (h.rounded hb).append hnone
  seen := fun hb => (seen_append _ _).2 (.inl (h.seen hb))

theorem fail (h : Mid b offset w) {α : Type} (e : Errno) {Q : α → World → Prop} :
    After (fail e) w Q (Ended b.toKind b.whole) :=
  { persistent := h.persistent
    boundary := h.boundary
    completes := h.completes
    packets := h.packets
    handed := h.isPrefix_handed
    cause := .inr (.inl ⟨rfl, rfl⟩) }

theorem exhausted (h : Mid b offset w) : Ended b.toKind b.whole .undefined w where
  toSane := h.toSane
  handed := h.isPrefix_handed
  cause := .inr (.inr rfl)

theorem stop (h : Mid b offset w) {α : Type} {Q : α → World → Prop} (hoffset : offset % 188 = 0)
    (hseen : Seen w.system.log) : After stop w Q (Ended b.toKind b.whole) := by
  have hstart := b.start_whole
  have hidle : Idle b.toKind (Tools.handed w.system.log)
      { w with output := { w.output with buffer := [] } } :=
    { persistent := h.persistent
      boundary := h.boundary
      completes := h.completes
      packets := h.packets
      ready := h.ready
      failed := h.failed
      given := List.append_nil _
      handed_whole := by
        show (Tools.handed w.system.log).length % 188 = 0
        rw [h.handed_length]
        omega
      buffer_whole := rfl
      rounded := h.rounded }
  exact {
    toSane := hidle.toSane
    handed := h.isPrefix_handed
    cause := .inl ⟨rfl, ⟨_, hidle, h.isPrefix_handed⟩, hseen⟩ }

end Mid

/-- The stop signal is asked for. -/
theorem after_stopRequested (h : Mid b offset w) {Q : Bool → World → Prop} {R : Stop → World → Prop}
    (hset : ∀ w', Mid b offset w' → Seen w'.system.log → Q true w')
    (hunset : ¬Seen w.system.log → ∀ w', Mid b offset w' → ¬Seen w'.system.log → Q false w') :
    After (ask .stopRequested) w Q R := by
  refine after_ask fun answer hanswer => ?_
  cases answer with
  | true => exact hset _ (h.asked rfl) ((seen_append _ _).2 (.inr rfl))
  | false =>
    have hnot : ¬Seen w.system.log := fun hseen => by
      rw [h.persistent _ hseen] at hanswer
      cases hanswer
    refine hunset hnot _ (h.asked rfl) ?_
    rw [asked_log, seen_append]
    exact not_or.2 ⟨hnot, nofun⟩

/-- `stopping_at_packet_boundary`. -/
theorem after_stopping (h : Mid b offset w) {Q : Bool → World → Prop} {R : Stop → World → Prop}
    (hyes : ∀ w', Mid b offset w' → Seen w'.system.log → b.boundary = true →
      offset % 188 = 0 → Q true w')
    (hno : ∀ w', Mid b offset w' → (Seen w.system.log → b.boundary = true → offset % 188 ≠ 0) →
      (b.boundary = true → offset % 188 = 0 → ¬Seen w'.system.log) → Q false w') :
    After (stoppingAtPacketBoundary offset) w Q R := by
  unfold stoppingAtPacketBoundary
  rw [Program.after_bind, Program.after_get]
  dsimp only
  rw [h.boundary]
  by_cases hboth : b.boundary = true ∧ offset % kPacketSize = 0
  · rw [if_pos hboth]
    refine after_stopRequested h (fun w' h' hseen' => hyes w' h' hseen' hboth.1 hboth.2) ?_
    exact fun hnot w' h' hseen' => hno w' h' (fun hseen => absurd hseen hnot) fun _ _ => hseen'
  · rw [if_neg hboth]
    exact hno w h (fun _ hb hoffset => hboth ⟨hb, hoffset⟩)
      fun hb hoffset => absurd ⟨hb, hoffset⟩ hboth

/-- `completing_stopped_socket_packet`. -/
theorem after_completing (h : Mid b offset w) {Q : Bool → World → Prop} {R : Stop → World → Prop}
    (hyes : ∀ w', Mid b offset w' → Free b offset w' → Q true w')
    (hno : ∀ w', Mid b offset w' → Q false w') :
    After (completingStoppedSocketPacket offset) w Q R := by
  unfold completingStoppedSocketPacket
  rw [Program.after_bind, Program.after_get]
  dsimp only
  rw [h.completes]
  by_cases hboth : b.completes = true ∧ offset % kPacketSize ≠ 0
  · rw [if_pos hboth]
    exact after_stopRequested h (fun w' h' _ => hyes w' h' fun _ _ => hboth)
      fun _ w' h' _ => hno w' h'
  · rw [if_neg hboth]
    exact hno w h

/-! ## A round -/

/-- What a `write` has handed over. -/
theorem Mid.written (h : Mid b offset w) (hfree : Free b offset w)
    {written :
      { n : Nat // n ≤ ((w.output.buffer.drop offset).take (w.output.writeSize offset)).length }} :
    let w' :=
  w.asked (.write ((w.output.buffer.drop offset).take (w.output.writeSize offset))) (.ok written)
    Mid b (offset + written.val) { w' with output := { w'.output with
      writtenPackets := w'.output.writtenPackets +
        UInt64.ofNat ((offset + written.val) / kPacketSize - offset / kPacketSize) } } := by
  have hlength : ((w.output.buffer.drop offset).take (w.output.writeSize offset)).length =
      min (w.output.writeSize offset) (b.buffer.length - offset) := by
    rw [List.length_take, List.length_drop, h.buffer]
  have hwritten := Nat.le_trans written.property (Nat.le_of_eq hlength)
  have hoffset := h.offset_le
  have hstart := b.start_whole
  have hhanded : Tools.handed (w.system.log ++ [⟨.write ((w.output.buffer.drop offset).take
      (w.output.writeSize offset)), .ok written⟩]) =
      b.start ++ b.buffer.take (offset + written.val) := by
    rw [handed_append, h.handed, List.append_assoc, List.take_add]
    show _ ++ (_ ++ List.take written.val (List.take _ _)) = _
    rw [List.take_take, Nat.min_eq_left (by omega), ← h.buffer]
  have htake : (b.buffer.take (offset + written.val)).length = offset + written.val := by
    rw [List.length_take]
    omega
  have hpackets : w.output.writtenPackets +
      UInt64.ofNat ((offset + written.val) / 188 - offset / 188) =
      UInt64.ofNat ((b.start ++ b.buffer.take (offset + written.val)).length / 188) := by
    rw [h.packets, h.handed_length, List.length_append, htake, ← UInt64.ofNat_add]
    congr 1
    omega
  constructor
  case toSane => exact ⟨h.persistent, h.boundary, h.completes, hhanded ▸ hpackets⟩
  case ready => exact h.ready
  case failed => exact h.failed
  case buffer => exact h.buffer
  case handed => exact hhanded
  case offset_le => omega
  case rounded =>
    intro hb
    show Rounded (w.system.log ++ [_])
    by_cases hseen : Seen w.system.log
    · obtain ⟨hcompletes, hmid⟩ := hfree hb hseen
      have hsize : w.output.writeSize offset ≤ 188 - offset % 188 := by
        unfold Px4TsBatchedFdOutput.writeSize
        dsimp only
        rw [if_pos ⟨h.completes.trans hcompletes, hmid⟩]
        exact Nat.min_le_right _ _
      have hrounded := h.rounded hb
      rw [Rounded, h.handed_length] at hrounded
      rw [Rounded, beforeStop_of_seen hseen, ← hrounded, hhanded, List.length_append, htake]
      unfold begun
      omega
    · refine rounded_of_not_seen ?_
      rw [seen_append]
      exact not_or.2 ⟨hseen, nofun⟩
  case seen => exact fun hb => (seen_append _ _).2 (.inl (h.seen hb))

theorem advance_spec (h : Mid b offset w) (hfree : Free b offset w) (retries : Nat)
    (written :
      { n : Nat // n ≤ ((w.output.buffer.drop offset).take (w.output.writeSize offset)).length }) :
    After (advance offset retries written.val)
      (w.asked (.write ((w.output.buffer.drop offset).take (w.output.writeSize offset)))
        (.ok written))
      (Next b) (Ended b.toKind b.whole) := by
  have hnext := @Mid.written _ _ _ h hfree written
  dsimp only at hnext
  unfold advance
  rw [Program.after_bind, after_update, Program.after_bind, Program.after_get]
  generalize ({ w.asked _ _ with output := _ } : World) = w' at hnext ⊢
  dsimp only
  rw [hnext.buffer, hnext.completes]
  by_cases hmore : offset + written.val < b.buffer.length
  · rw [if_pos hmore, Program.after_bind]
    refine after_stopRequested hnext (fun w₁ h₁ hseen₁ => ?_) fun _ w₁ h₁ hseen₁ => ?_
    · rw [if_pos rfl, Program.after_bind]
      refine after_stopping h₁ (fun w₂ h₂ hseen₂ _ hwhole => ?_) fun w₂ h₂ hmid _ => ?_
      · exact h₂.stop hwhole hseen₂
      · rw [if_neg (by simp)]
        by_cases hbad : b.completes = false ∨ (offset + written.val) % kPacketSize = 0
        · rw [if_pos hbad]
          exact h₂.fail _
        · rw [if_neg hbad]
          rw [not_or, Bool.not_eq_false] at hbad
          exact ⟨h₂, fun _ _ _ => hbad⟩
    · exact ⟨h₁, fun _ _ hseen => absurd hseen hseen₁⟩
  · rw [if_neg hmore]
    exact ⟨hnext, fun hless => absurd hless hmore⟩

theorem interrupted_spec (h : Mid b offset w) (retries : Nat) :
    After (interrupted offset retries) w (Next b) (Ended b.toKind b.whole) := by
  unfold interrupted
  rw [Program.after_bind]
  refine after_stopRequested h (fun w₁ h₁ _ => ?_) fun _ w₁ h₁ hseen₁ => ?_
  · rw [if_pos rfl, Program.after_bind]
    refine after_stopping h₁ (fun w₂ h₂ hseen₂ _ hwhole => h₂.stop hwhole hseen₂)
      fun w₂ h₂ _ _ => ?_
    rw [if_neg (by simp), Program.after_bind]
    refine after_completing h₂ (fun w₃ h₃ hfree₃ => ?_) fun w₃ h₃ => h₃.fail _
    rw [if_pos rfl]
    split
    · exact h₃.fail _
    · exact ⟨h₃, fun _ => hfree₃⟩
  · exact ⟨h₁, fun _ _ hseen => absurd hseen hseen₁⟩

theorem pollAgain_spec (fuel : Nat) (h : Mid b offset w) :
    After (pollAgain fuel) w (fun _ => Mid b offset) (Ended b.toKind b.whole) := by
  induction fuel generalizing w with
  | zero => exact h.exhausted
  | succ fuel ih =>
    unfold pollAgain
    rw [Program.after_bind]
    refine after_ask fun answer _ => ?_
    have h₁ := @Mid.asked b offset w h .poll answer rfl
    split
    · rw [Program.after_bind]
      refine after_stopRequested h₁ (fun w₂ h₂ _ => ?_) fun _ w₂ h₂ _ => ?_
      · rw [if_pos rfl]
        exact h₂
      · rw [if_neg (by simp)]
        exact ih h₂
    · exact h₁

theorem afterPoll_spec (h : Mid b offset w) (hfree : Free b offset w) (retries : Nat)
    (polled : Except Errno Polled) : After (afterPoll offset retries polled) w (Next b)
    (Ended b.toKind b.whole) := by
  unfold afterPoll
  split
  · split
    · rw [Program.after_bind]
      refine after_completing h (fun w₁ h₁ hfree₁ => ?_) fun w₁ h₁ => h₁.fail _
      exact ⟨h₁, fun _ => hfree₁⟩
    · exact h.fail _
  · exact h.fail _
  · exact ⟨h, fun _ => hfree⟩

theorem waitWritable_spec (fuel : Nat) (h : Mid b offset w) (retries : Nat) :
    After (waitWritable fuel offset retries) w (Next b) (Ended b.toKind b.whole) := by
  unfold waitWritable
  rw [Program.after_bind]
  refine (pollAgain_spec fuel h).mono (fun polled w₁ h₁ => ?_) fun _ _ hended => hended
  rw [Program.after_bind]
  refine after_stopRequested h₁ (fun w₂ h₂ _ => ?_) fun _ w₂ h₂ hseen₂ => ?_
  · rw [if_pos rfl, Program.after_bind]
    refine after_stopping h₂ (fun w₃ h₃ hseen₃ _ hwhole => h₃.stop hwhole hseen₃)
      fun w₃ h₃ _ _ => ?_
    rw [if_neg (by simp), Program.after_bind]
    refine after_completing h₃ (fun w₄ h₄ hfree₄ => ?_) fun w₄ h₄ => h₄.fail _
    rw [if_pos rfl]
    split
    · exact h₄.fail _
    · exact afterPoll_spec h₄ hfree₄ _ _
  · rw [if_neg (by simp)]
    exact afterPoll_spec h₂ (fun _ hseen => absurd hseen hseen₂) _ _

theorem blocked_spec (fuel : Nat) (h : Mid b offset w) (retries : Nat) :
    After (blocked fuel offset retries) w (Next b) (Ended b.toKind b.whole) := by
  unfold blocked
  rw [Program.after_bind]
  refine after_stopRequested h (fun w₁ h₁ _ => ?_) fun _ w₁ h₁ _ => ?_
  · rw [if_pos rfl, Program.after_bind]
    refine after_stopping h₁ (fun w₂ h₂ hseen₂ _ hwhole => h₂.stop hwhole hseen₂)
      fun w₂ h₂ _ _ => ?_
    rw [if_neg (by simp), Program.after_bind]
    refine after_completing h₂ (fun w₃ h₃ _ => ?_) fun w₃ h₃ => h₃.fail _
    rw [if_pos rfl]
    exact waitWritable_spec fuel h₃ retries
  · rw [if_neg (by simp)]
    exact waitWritable_spec fuel h₁ retries

/-- **A round goes on, or ends the call.** -/
theorem flushRound_spec (fuel : Nat) (h : Mid b offset w) (hfree : Free b offset w)
    (retries : Nat) :
    After (flushRound fuel offset retries) w (Next b) (Ended b.toKind b.whole) := by
  unfold flushRound
  rw [Program.after_bind, Program.after_get]
  dsimp only
  rw [Program.after_bind]
  refine after_ask fun answer _ => ?_
  match answer with
  | .ok written =>
    dsimp only
    split
    · next hzero =>
      refine (h.asked ?_).fail _
      show List.take written.val _ = []
      rw [hzero]
      rfl
    · exact advance_spec h hfree retries written
  | .error .eintr => exact interrupted_spec (h.asked rfl) retries
  | .error .eagain => exact blocked_spec fuel (h.asked rfl) retries
  | .error .ewouldblock => exact blocked_spec fuel (h.asked rfl) retries
  | .error .epipe =>
    show After (stoppingAtPacketBoundary offset >>= _) _ _ _
    rw [Program.after_bind]
    refine after_stopping (h.asked rfl) (fun w₁ h₁ hseen₁ _ hwhole => h₁.stop hwhole hseen₁)
      fun w₁ h₁ _ _ => ?_
    exact h₁.fail _
  | .error .eio => exact (h.asked rfl).fail _
  | .error (.other code) => exact (h.asked rfl).fail _

/-! ## A flush -/

theorem flushLoop_spec (fuel : Nat) (h : Mid b offset w)
    (hfree : offset < b.buffer.length → Free b offset w) (retries : Nat) :
    After (flushLoop fuel offset retries) w (fun _ => Mid b b.buffer.length)
      (Ended b.toKind b.whole) := by
  induction fuel generalizing offset w retries with
  | zero => exact h.exhausted
  | succ fuel ih =>
    unfold flushLoop
    rw [Program.after_bind, Program.after_get, h.buffer]
    have hoffset := h.offset_le
    split
    · next hless =>
      rw [Program.after_bind]
      refine (flushRound_spec fuel h (hfree hless) retries).mono ?_ fun _ _ hended => hended
      rintro ⟨next, retries⟩ w₁ ⟨h₁, hfree₁⟩
      exact ih h₁ hfree₁ retries
    · next hdone =>
      obtain rfl : offset = b.buffer.length := by omega
      exact h

variable {k : Kind} {given : List UInt8}

/-- The batch that is flushed between calls. -/
def Idle.batch (h : Idle k given w) : Batch where
  toKind := k
  start := handed w.system.log
  buffer := w.output.buffer
  start_whole := h.handed_whole
  buffer_whole := h.buffer_whole
  seen := w.system.log.any isStop

theorem Idle.mid (h : Idle k given w) : Mid h.batch 0 w where
  toSane := h.toSane
  ready := h.ready
  failed := h.failed
  buffer := rfl
  handed := by
    rw [List.take_zero, List.append_nil]
    rfl
  offset_le := Nat.zero_le _
  rounded := h.rounded
  seen := id

/-- What holds after a whole flush. -/
theorem Mid.idle (h : Mid b b.buffer.length w) :
    Idle b.toKind b.whole { w with output := { w.output with buffer := [] } } where
  persistent := h.persistent
  boundary := h.boundary
  completes := h.completes
  packets := h.packets
  ready := h.ready
  failed := h.failed
  given := by
    rw [List.append_nil]
    exact h.handed.trans (by rw [List.take_length]; rfl)
  handed_whole := by
    have hstart := b.start_whole
    have hbuffer := b.buffer_whole
    show (Tools.handed w.system.log).length % 188 = 0
    rw [h.handed_length]
    omega
  buffer_whole := rfl
  rounded := h.rounded

/-- **All that a flush can do.** -/
theorem flushBuffer_spec (fuel : Nat) (h : Idle k given w) :
    After (flushBuffer fuel) w
      (fun _ w' => Idle k given w' ∧ w'.output.buffer = [] ∧
        (Seen w.system.log → Seen w'.system.log))
      (Ended k given) := by
  have hgiven : h.batch.whole = given := h.given
  unfold flushBuffer
  rw [Program.after_bind, Program.after_get]
  split
  · next hempty => exact ⟨h, hempty, id⟩
  · rw [Program.after_bind]
    refine after_stopping h.mid (fun w₁ h₁ hseen₁ _ hwhole => ?_) fun w₁ h₁ _ hfree₁ => ?_
    · rw [if_pos rfl, ← hgiven]
      exact h₁.stop hwhole hseen₁
    · rw [if_neg (by simp), Program.after_bind]
      refine (flushLoop_spec fuel h₁ (fun _ hb hseen => absurd hseen (hfree₁ hb rfl)) 0).mono ?_ ?_
      · intro _ w₂ h₂
        rw [after_update]
        exact ⟨hgiven ▸ h₂.idle, rfl, h₂.seen⟩
      · rintro reason w₂ hended
        exact hgiven ▸ hended

/-! ## Calls -/

theorem Idle.asked (h : Idle k given w) {q : Ask} {answer : q.Answer}
    (hnone : handedBy ⟨q, answer⟩ = []) :
    Idle k given (w.asked q answer) where
  persistent := h.persistent
  boundary := h.boundary
  completes := h.completes
  packets := by rw [asked_log, handed_append, hnone, List.append_nil, asked_output, h.packets]
  ready := h.ready
  failed := h.failed
  given := by rw [asked_log, handed_append, hnone, List.append_nil, asked_output, h.given]
  handed_whole := by rw [asked_log, handed_append, hnone, List.append_nil, h.handed_whole]
  buffer_whole := h.buffer_whole
  rounded := fun hb => (h.rounded hb).append hnone

theorem Ended.mono {reason : Stop} (h : Ended k given reason w) {more : List UInt8}
    (hmore : given <+: more) :
    Ended k more reason w where
  toSane := h.toSane
  handed := h.handed.trans hmore
  cause := by
    obtain ⟨hreason, ⟨rest, hidle, hrest⟩, hseen⟩ | hother := h.cause
    · exact .inl ⟨hreason, ⟨rest, hidle, hrest.trans hmore⟩, hseen⟩
    · exact .inr hother

/-- After a failure that is not one of the stop signal, or without a descriptor, there is nothing to
do. -/
structure Dead (k : Kind) (given : List UInt8) (w : World) : Prop extends Sane k w where
  handed : handed w.system.log <+: given
  dead : w.output.ready = false ∨ w.output.failed = true

theorem append_spec (fuel : Nat) (h : Idle k given w) {values : List UInt8}
    (hvalues : values.length = 188) :
    After (append fuel values) w (fun _ => Idle k (given ++ values))
      (Ended k (given ++ values)) := by
  have hidle : Idle k (given ++ values)
      { w with output := { w.output with buffer := w.output.buffer ++ values } } :=
    { persistent := h.persistent
      boundary := h.boundary
      completes := h.completes
      packets := h.packets
      ready := h.ready
      failed := h.failed
      given := by rw [← h.given, List.append_assoc]
      handed_whole := h.handed_whole
      buffer_whole := by
        have hbuffer := h.buffer_whole
        rw [List.length_append]
        omega
      rounded := h.rounded }
  unfold append
  rw [Program.after_bind, after_update, Program.after_bind, Program.after_get]
  split
  · exact (flushBuffer_spec fuel hidle).mono (fun _ _ h => h.1) fun _ _ h => h
  · exact hidle

/-- The stop signal ends a call. -/
theorem Idle.halt (h : Idle k given w) (hseen : Seen w.system.log) {more : List UInt8}
    (hmore : given <+: more) : Ended k more (.failure .timeout) w where
  toSane := h.toSane
  handed := by
    rw [← h.given] at hmore
    exact (List.prefix_append _ _).trans hmore
  cause := .inl ⟨rfl, ⟨given, h, hmore⟩, hseen⟩

/-- A call while none has failed. -/
theorem Idle.call (h : Idle k given w) (fuel : Nat) (call : Call) :
    After (call.run fuel) w
      (fun _ w' => Idle k (given ++ call.bytes) w' ∧ (call = .finish → w'.output.buffer = []))
      (Ended k (given ++ call.bytes)) := by
  cases call with
  | write packet =>
    have hmore : given <+: given ++ packet.val := List.prefix_append _ _
    show After (write fuel (ByteView.of packet.val)) w _ _
    unfold write
    rw [Program.after_bind, Program.after_get]
    dsimp only
    rw [if_neg (by simp [h.ready, h.failed, packet.property]), Program.after_bind]
    refine after_ask fun answer _ => ?_
    have h₁ := @Idle.asked w k given h .stopRequested answer rfl
    cases answer with
    | true => exact h₁.halt ((seen_append _ _).2 (.inr rfl)) hmore
    | false =>
      rw [if_neg (by simp)]
      split
      · rw [Program.after_bind]
        refine (flushBuffer_spec fuel h₁).mono (fun _ w₂ h₂ => ?_) fun _ _ hended =>
          hended.mono hmore
        exact (append_spec fuel h₂.1 packet.property).mono (fun _ _ h₃ => ⟨h₃, nofun⟩)
          fun _ _ h₃ => h₃
      · exact (append_spec fuel h₁ packet.property).mono (fun _ _ h₂ => ⟨h₂, nofun⟩)
          fun _ _ h₂ => h₂
  | finish =>
    show After (finish fuel) w _ _
    unfold finish
    rw [Program.after_bind, Program.after_get]
    dsimp only
    rw [if_neg (by simp [h.ready, h.failed])]
    refine (flushBuffer_spec fuel h).mono (fun _ w₁ h₁ => ?_) fun _ _ hended => ?_
    · rw [Call.bytes, List.append_nil]
      exact ⟨h₁.1, fun _ => h₁.2.1⟩
    · rwa [Call.bytes, List.append_nil]

/-- A call after one that the stop signal has ended. -/
theorem Halted.call (h : Halted k given w) (fuel : Nat) (call : Call) :
    After (call.run fuel) w (fun _ => Halted k given) (Ended k given) := by
  obtain ⟨⟨rest, hidle, hrest⟩, hseen⟩ := h
  cases call with
  | write packet =>
    show After (write fuel (ByteView.of packet.val)) w _ _
    unfold write
    rw [Program.after_bind, Program.after_get]
    dsimp only
    rw [if_neg (by simp [hidle.ready, hidle.failed, packet.property]), Program.after_bind]
    refine after_ask fun answer hanswer => ?_
    obtain rfl : answer = true := hanswer.symm.trans (hidle.persistent _ hseen)
    exact (hidle.asked rfl).halt ((seen_append _ _).2 (.inl hseen)) hrest
  | finish =>
    show After (finish fuel) w _ _
    unfold finish
    rw [Program.after_bind, Program.after_get]
    dsimp only
    rw [if_neg (by simp [hidle.ready, hidle.failed])]
    refine (flushBuffer_spec fuel hidle).mono (fun _ w₁ h₁ => ?_) fun _ _ hended =>
      hended.mono hrest
    exact ⟨⟨rest, h₁.1, hrest⟩, h₁.2.2 hseen⟩

/-- A call of an output that is no more. -/
theorem Dead.call (h : Dead k given w) (fuel : Nat) (call : Call) :
    ∃ e, (call.run fuel).exec w = (.error (.failure e), w) ∧ e ≠ .timeout := by
  cases call with
  | write packet =>
    refine ⟨.invalidArgument, ?_, nofun⟩
    show (if _ then _ else _ : Tool Unit).exec w = _
    rw [if_pos (h.dead.imp id .inl)]
    rfl
  | finish =>
    refine ⟨.internal, ?_, nofun⟩
    show (if _ then _ else _ : Tool Unit).exec w = _
    rw [if_pos h.dead]
    rfl

end Px4.Tools
