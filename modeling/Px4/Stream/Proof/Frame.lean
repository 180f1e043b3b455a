import Px4.Stream.Session

/-!
# What the operations of a session can change

Most operations touch neither the ring nor the attachment (`Quiet`). `enqueue_cases` says what a
packet can do: it is withheld, it is stored behind the queued ones, or it finds the ring full and
ends the session. `Queue.Wf.push_queued` and `Queue.Wf.pop_queued` give the ring operations as list
operations, from `Lib.Ring`. `SessionInv` is the bookkeeping that every operation keeps
(`SessionInv.step`).
-/

namespace Px4.Stream

theorem sameAttachment_iff {a b : TunerAttachment} : sameAttachment a b = true ↔ a = b := by
  cases a
  cases b
  simp [sameAttachment, and_assoc]

/-! ## The ring -/

/-- The ring is well formed: allocated with its head inside, or not allocated and empty. -/
structure Queue.Wf (q : Queue) : Prop where
  count_le : q.count ≤ q.capacity
  head_lt : q.packets.isSome = true → q.head < q.capacity
  empty : q.packets = none → q.capacity = 0

theorem Queue.Wf.count_zero {q : Queue} (h : q.Wf) (hn : q.packets = none) : q.count = 0 := by
  have := h.count_le
  have := h.empty hn
  omega

theorem Queue.Wf.queued_length {q : Queue} (h : q.Wf) : q.queued.length = q.count := by
  cases hp : q.packets with
  | some slots => simp [Queue.queued, hp]
  | none => simp [Queue.queued, hp, h.count_zero hp]

theorem Queue.queued_of_count_zero {q : Queue} (h : q.count = 0) : q.queued = [] := by
  unfold Queue.queued
  split <;> simp [h]

theorem Queue.Wf.clear {q : Queue} (h : q.Wf) : ({ q with count := 0 } : Queue).Wf :=
  ⟨Nat.zero_le _, h.head_lt, h.empty⟩

section

variable {q : Queue}

theorem Queue.Wf.push (h : q.Wf) (hs : q.packets.isSome = true) (hne : q.count ≠ q.capacity)
    (packet : Packet) : (q.push packet).Wf := by
  have hle := h.count_le
  refine ⟨?_, fun _ => h.head_lt hs, fun hn => ?_⟩
  · show q.count + 1 ≤ q.capacity
    omega
  · obtain ⟨slots, hslots⟩ := Option.isSome_iff_exists.mp hs
    simp [Queue.push, hslots] at hn

/-- Storing a packet appends it to the queued ones. -/
theorem Queue.Wf.push_queued (h : q.Wf) (hs : q.packets.isSome = true)
    (hne : q.count ≠ q.capacity) (packet : Packet) :
    (q.push packet).queued = q.queued ++ [packet] := by
  have hle := h.count_le
  obtain ⟨slots, hslots⟩ := Option.isSome_iff_exists.mp hs
  simp only [Queue.queued, Queue.push, hslots, Option.map_some]
  exact Lib.Ring.contents_push packet (by omega)

theorem Queue.Wf.pop (h : q.Wf) (n : Nat) : (q.pop n).1.Wf := by
  have hle := h.count_le
  refine ⟨?_, fun hs => ?_, h.empty⟩
  · show q.count - n ≤ q.capacity
    omega
  · have hlt := h.head_lt hs
    exact Nat.mod_lt _ (by omega)

/-- Taking packets out splits the queued ones. -/
theorem Queue.Wf.pop_queued (h : q.Wf) {n : Nat} (hn : n ≤ q.count) :
    (q.pop n).2 = q.queued.take n ∧ (q.pop n).1.queued = q.queued.drop n := by
  cases hp : q.packets with
  | none => simp [Queue.pop, Queue.queued, hp]
  | some slots =>
    simp only [Queue.pop, Queue.queued, hp]
    exact ⟨Lib.Ring.copy_two_parts (h.head_lt (by simp [hp])) hn h.count_le rfl,
      Lib.Ring.contents_advance n⟩

theorem Queue.allocate_wf {q' : Queue} {n : Nat} {allocated : Bool} (h : q.Wf) (hn : 0 < n)
    (hq : q.allocate n allocated = some q') :
    ({ q' with head := 0, count := 0 } : Queue).Wf ∧ q'.packets.isSome = true := by
  cases hp : q.packets with
  | some slots =>
    simp only [Queue.allocate, hp, Option.some.injEq] at hq
    subst hq
    have hlt := h.head_lt (by simp [hp])
    refine ⟨⟨Nat.zero_le _, fun _ => ?_, fun hn => by simp [hp] at hn⟩, by simp [hp]⟩
    show 0 < q.capacity
    omega
  | none =>
    cases allocated with
    | false => simp [Queue.allocate, hp] at hq
    | true =>
      simp only [Queue.allocate, hp, if_true, Option.some.injEq] at hq
      subst hq
      exact ⟨⟨Nat.zero_le _, fun _ => hn, fun hn => by simp at hn⟩, rfl⟩

end

/-! ## Operations that leave the ring alone -/

/-- The ring, the attachment, the terminal state and the published packets are as before. -/
structure Quiet (s s' : Session) : Prop where
  queue : s'.queue = s.queue
  binding : s'.binding = s.binding
  terminal : s'.terminal = s.terminal
  packets : s'.counters.packets = s.counters.packets
  queueDrops : s'.counters.queueDrops = s.counters.queueDrops

section

variable {s s' s'' : Session} {policy : StartupStabilizationPolicy}

theorem Quiet.refl (s : Session) : Quiet s s := ⟨rfl, rfl, rfl, rfl, rfl⟩

theorem Quiet.trans (h : Quiet s s') (h' : Quiet s' s'') : Quiet s s'' :=
  ⟨h'.queue.trans h.queue, h'.binding.trans h.binding, h'.terminal.trans h.terminal,
    h'.packets.trans h.packets, h'.queueDrops.trans h.queueDrops⟩

theorem Quiet.live (h : Quiet s s') : s'.live = s.live := by
  simp only [Session.live, h.binding, h.terminal]

theorem finishStartupPacket_quiet (s : Session) : Quiet s (finishStartupPacket policy s) := by
  simp only [finishStartupPacket]
  split
  · exact Quiet.refl s
  split <;> exact ⟨rfl, rfl, rfl, rfl, rfl⟩

theorem gate_quiet (s : Session) (gate : Startup) : Quiet s { s with gate } :=
  ⟨rfl, rfl, rfl, rfl, rfl⟩

theorem countWireTei_quiet (s : Session) : Quiet s (countWireTei policy s) := by
  unfold countWireTei
  split
  · exact Quiet.refl s
  split
  · exact (gate_quiet s _).trans (finishStartupPacket_quiet _)
  · exact ⟨rfl, rfl, rfl, rfl, rfl⟩

theorem enqueueStartup_quiet (packet : Packet) (s : Session) :
    Quiet s (enqueueStartup policy packet s) := by
  unfold enqueueStartup
  split <;> exact (gate_quiet s _).trans (finishStartupPacket_quiet _)

theorem promoteReady_quiet (s : Session) : Quiet s (promoteReady s) := by
  unfold promoteReady
  split
  · exact Quiet.refl s
  · exact gate_quiet s _

theorem countSyncLosses_quiet (losses : Nat) (publishedBefore : Bool) (s : Session) :
    Quiet s (countSyncLosses losses publishedBefore s) := by
  unfold countSyncLosses
  split
  · exact Quiet.refl s
  split
  · exact gate_quiet s _
  split
  · exact ⟨rfl, rfl, rfl, rfl, rfl⟩
  · exact Quiet.refl s

theorem countSyncDeltas_quiet (losses : Nat) (publishedBefore : Bool) (s : Session) :
    Quiet s (countSyncDeltas losses publishedBefore s) := by
  unfold countSyncDeltas
  refine Quiet.trans ?_ (promoteReady_quiet _)
  split
  · exact countSyncLosses_quiet losses publishedBefore s
  · exact Quiet.refl s

theorem countEmpty_quiet (s : Session) : Quiet s (countEmpty s) := by
  unfold countEmpty
  split
  · exact ⟨rfl, rfl, rfl, rfl, rfl⟩
  · exact Quiet.refl s

/-! ## A packet -/

/-- A packet that is published: the counters and the ring after `publishPacket`. -/
structure Stored (packet : Packet) (s s' : Session) : Prop where
  live : s.live = true
  published : s.gate.stabilizing = false
  room : s.queue.count ≠ s.queue.capacity
  queue : s'.queue = s.queue.push packet
  binding : s'.binding = s.binding
  terminal : s'.terminal = s.terminal
  packets : s'.counters.packets = s.counters.packets + 1
  queueDrops : s'.counters.queueDrops = s.counters.queueDrops

/-- A packet that finds the ring full. -/
structure Dropped (s s' : Session) : Prop where
  live : s.live = true
  published : s.gate.stabilizing = false
  full : s.queue.count = s.queue.capacity
  queue : s'.queue = s.queue
  binding : s'.binding = s.binding
  terminal : s'.terminal = .slowConsumer
  packets : s'.counters.packets = s.counters.packets + 1
  queueDrops : s'.counters.queueDrops = s.counters.queueDrops + 1

/-- **What a packet can do.** -/
theorem enqueue_cases (policy : StartupStabilizationPolicy) (packet : Packet) (s : Session) :
    Quiet s (enqueue policy packet s) ∨ Stored packet s (enqueue policy packet s) ∨
      Dropped s (enqueue policy packet s) := by
  unfold enqueue
  split
  · exact .inl (Quiet.refl s)
  rename_i hlive
  have hlive : s.live = true := by simpa using hlive
  split
  · exact .inl (enqueueStartup_quiet packet s)
  rename_i hst
  have hst : s.gate.stabilizing = false := by simpa using hst
  simp only [enqueuePublic]
  split
  · exact .inl ⟨rfl, rfl, rfl, rfl, rfl⟩
  simp only [publishPacket]
  split
  · rename_i hfull
    exact .inr (.inr ⟨hlive, hst, hfull, rfl, rfl, rfl, rfl, rfl⟩)
  · rename_i hroom
    exact .inr (.inl ⟨hlive, hst, hroom, rfl, rfl, rfl, rfl, rfl⟩)

/-! ## Operations of the pump -/

/-- A terminal mark other than `slow_consumer`. -/
structure Marked (s s' : Session) : Prop where
  live : s.live = true
  queue : s'.queue = s.queue
  binding : s'.binding = s.binding
  terminal : s'.terminal ≠ .slowConsumer ∧ s'.terminal ≠ .none
  packets : s'.counters.packets = s.counters.packets
  queueDrops : s'.counters.queueDrops = s.counters.queueDrops

theorem markBridgeTerminal_cases {reason : StreamTerminal} (s : Session)
    (hreason : reason ≠ .slowConsumer ∧ reason ≠ .none) :
    Quiet s (markBridgeTerminal reason s) ∨ Marked s (markBridgeTerminal reason s) := by
  unfold markBridgeTerminal
  split
  · rename_i hlive
    exact .inr ⟨hlive, rfl, rfl, hreason, rfl, rfl⟩
  · exact .inl (Quiet.refl s)

theorem markAllTerminal_cases (s : Session) :
    Quiet s (markAllTerminal s) ∨ Marked s (markAllTerminal s) := by
  unfold markAllTerminal
  split
  · rename_i hlive
    exact .inr ⟨hlive, rfl, rfl, by simp, rfl, rfl⟩
  · exact .inl (Quiet.refl s)

theorem terminalForError_ne (err : Error) :
    terminalForError err ≠ .slowConsumer ∧ terminalForError err ≠ .none := by
  unfold terminalForError
  split <;> simp

theorem terminalForPush_ne (err : Error) :
    terminalForPush err ≠ .slowConsumer ∧ terminalForPush err ≠ .none := by
  unfold terminalForPush
  split <;> simp

/-- The operations of the pump and the bridges, as against those of a client. -/
def Op.isStream : Op → Bool
  | .packet _ | .wireTei | .eventEnd _ _ | .empty | .waitFailed _ | .pushFailed _
  | .enclosureFatal => true
  | _ => false

/-- What an operation of the pump can do to a session. -/
inductive StreamStep (s s' : Session) : Prop
  | quiet (h : Quiet s s')
  | stored (packet : Packet) (h : Stored packet s s')
  | dropped (h : Dropped s s')
  | marked (h : Marked s s')

/-- **The pump** leaves the ring alone, stores a packet, drops one, or ends the session. -/
theorem step_stream (cfg : Config) {op : Op} (h : op.isStream = true) (s : Session) :
    StreamStep s (step cfg s op) := by
  have hmark {s' : Session} : Quiet s s' ∨ Marked s s' → StreamStep s s' :=
    fun h => h.elim .quiet .marked
  cases op with
  | packet packet =>
    rcases enqueue_cases cfg.stabilization packet s with hq | hst | hd
    · exact .quiet hq
    · exact .stored packet hst
    · exact .dropped hd
  | wireTei => exact .quiet (countWireTei_quiet s)
  | eventEnd losses publishedBefore => exact .quiet (countSyncDeltas_quiet losses _ s)
  | empty => exact .quiet (countEmpty_quiet s)
  | waitFailed err => exact hmark (markBridgeTerminal_cases s (terminalForError_ne err))
  | pushFailed err => exact hmark (markBridgeTerminal_cases s (terminalForPush_ne err))
  | enclosureFatal => exact hmark (markAllTerminal_cases s)
  | _ => cases h

theorem StreamStep.binding_eq (h : StreamStep s s') : s'.binding = s.binding := by
  cases h with
  | quiet h => exact h.binding
  | stored _ h => exact h.binding
  | dropped h => exact h.binding
  | marked h => exact h.binding

theorem StreamStep.terminal_none (h : StreamStep s s') (hn : s'.terminal = .none) :
    s.terminal = .none := by
  cases h with
  | quiet h => exact h.terminal.symm.trans hn
  | stored _ h => exact h.terminal.symm.trans hn
  | dropped h => rw [h.terminal] at hn; cases hn
  | marked h => exact absurd hn h.terminal.2

theorem StreamStep.count_le (h : StreamStep s s') : s'.queue.count ≤ s.queue.count + 1 := by
  cases h with
  | quiet h => rw [h.queue]; omega
  | stored _ h => rw [h.queue]; exact Nat.le_refl _
  | dropped h => rw [h.queue]; omega
  | marked h => rw [h.queue]; omega

/-! ## Operations of a client -/

/-- An attach. -/
def Op.isAttach : Op → Bool
  | .attach _ _ => true
  | _ => false

/-- What a client's operation other than an attach leaves: the gate, the counters and the
attachment are as before, the queue is no longer and a terminal state is not left. -/
structure ClientStep (s s' : Session) : Prop where
  gate : s'.gate = s.gate
  counters : s'.counters = s.counters
  identity : s'.binding.identity = s.binding.identity
  count : s'.queue.count ≤ s.queue.count
  terminal : s'.terminal = .none → s.terminal = .none

theorem ClientStep.refl (s : Session) : ClientStep s s := ⟨rfl, rfl, rfl, Nat.le_refl _, id⟩

theorem finalTerminal_ne_none (t : StreamTerminal) : finalTerminal t ≠ .none := by
  cases t <;> simp [finalTerminal]

theorem readCopy_client (size : Nat) (s : Session) : ClientStep s (readCopy size s).1 := by
  unfold readCopy
  split
  · split <;> exact ⟨rfl, rfl, rfl, Nat.le_refl _, id⟩
  · exact ⟨rfl, rfl, rfl, Nat.sub_le _ _, id⟩

/-- **A client's operation** other than an attach. -/
theorem step_client (cfg : Config) {op : Op} (hs : op.isStream = false) (ha : op.isAttach = false)
    (s : Session) : ClientStep s (step cfg s op) := by
  cases op with
  | detach attachment stopped =>
    simp only [step, detach]
    split
    · exact ClientStep.refl s
    split
    · exact ClientStep.refl s
    · exact ⟨rfl, rfl, rfl, Nat.le_refl _, fun h => absurd h (finalTerminal_ne_none _)⟩
  | read attachment output =>
    simp only [step, read]
    split
    · exact ClientStep.refl s
    · exact readCopy_client output.size s
  | releaseFinal attachment =>
    simp only [step, releaseFinal]
    split
    · exact ClientStep.refl s
    · exact ⟨rfl, rfl, rfl, Nat.zero_le _, id⟩
  | shutdown stopped =>
    have hend : ClientStep s (endSession s) := by
      unfold endSession
      split
      · exact ⟨rfl, rfl, rfl, Nat.zero_le _, fun h => absurd h (finalTerminal_ne_none _)⟩
      · exact ClientStep.refl s
    cases stopped with
    | ok _ => exact hend
    | error err =>
      simp only [step, shutdown, failSnapshot]
      split
      · exact ⟨hend.gate, hend.counters, hend.identity, hend.count, hend.terminal⟩
      · exact hend
  | attach attachment env => cases ha
  | _ => cases hs

/-! ## The invariant of a session -/

/-- The ring is well formed, an attachment that drains or is final is no longer attached, and a
packet has been dropped exactly when the session is a slow consumer. -/
structure SessionInv (s : Session) : Prop where
  wf : s.queue.Wf
  alloc : s.binding.attached = true → s.queue.packets.isSome = true
  draining : s.binding.draining = true →
    s.binding.attached = false ∧ s.binding.finalIdentity = s.binding.identity
  final : s.binding.finalSnapshotValid = true → s.binding.attached = false
  drops : s.counters.queueDrops = if s.terminal = .slowConsumer then 1 else 0

theorem sessionInv_init : SessionInv {} :=
  ⟨⟨Nat.le_refl 0, nofun, fun _ => rfl⟩, nofun, nofun, nofun, rfl⟩

theorem Session.attached_of_live (h : s.live = true) : s.binding.attached = true := by
  simp only [Session.live, Bool.and_eq_true] at h
  exact h.1

theorem Session.terminal_of_live (h : s.live = true) : s.terminal = .none := by
  simp only [Session.live, Bool.and_eq_true, beq_iff_eq] at h
  exact h.2

theorem SessionInv.quiet (h : SessionInv s) (hq : Quiet s s') : SessionInv s' where
  wf := by rw [hq.queue]; exact h.wf
  alloc := by rw [hq.queue, hq.binding]; exact h.alloc
  draining := by rw [hq.binding]; exact h.draining
  final := by rw [hq.binding]; exact h.final
  drops := by rw [hq.queueDrops, hq.terminal]; exact h.drops

theorem SessionInv.stored (h : SessionInv s) {packet : Packet} (hst : Stored packet s s') :
    SessionInv s' where
  wf := by
    rw [hst.queue]
    exact h.wf.push (h.alloc (Session.attached_of_live hst.live)) hst.room packet
  alloc := by
    rw [hst.queue, hst.binding]
    exact fun ha => by simpa [Queue.push] using h.alloc ha
  draining := by rw [hst.binding]; exact h.draining
  final := by rw [hst.binding]; exact h.final
  drops := by rw [hst.queueDrops, hst.terminal]; exact h.drops

theorem SessionInv.dropped (h : SessionInv s) (hd : Dropped s s') : SessionInv s' where
  wf := by rw [hd.queue]; exact h.wf
  alloc := by rw [hd.queue, hd.binding]; exact h.alloc
  draining := by rw [hd.binding]; exact h.draining
  final := by rw [hd.binding]; exact h.final
  drops := by
    have := h.drops
    rw [Session.terminal_of_live hd.live] at this
    rw [hd.queueDrops, hd.terminal, this]
    rfl

theorem SessionInv.marked (h : SessionInv s) (hm : Marked s s') : SessionInv s' where
  wf := by rw [hm.queue]; exact h.wf
  alloc := by rw [hm.queue, hm.binding]; exact h.alloc
  draining := by rw [hm.binding]; exact h.draining
  final := by rw [hm.binding]; exact h.final
  drops := by
    have := h.drops
    rw [Session.terminal_of_live hm.live] at this
    rw [hm.queueDrops, this, if_neg hm.terminal.1]
    rfl

theorem finalTerminal_slow (t : StreamTerminal) :
    finalTerminal t = .slowConsumer ↔ t = .slowConsumer := by
  cases t <;> simp [finalTerminal]

theorem SessionInv.readCopy (h : SessionInv s) (size : Nat) :
    SessionInv (Stream.readCopy size s).1 := by
  unfold Stream.readCopy
  split
  · split
    · exact ⟨h.wf, h.alloc, nofun, h.final, h.drops⟩
    · exact h
  · exact ⟨h.wf.pop _, h.alloc, h.draining, h.final, h.drops⟩

/-- A read that passes its checks is one of the session's attachment, with room for a packet. -/
theorem readCheck_ok {cfg : Config} {attachment : TunerAttachment} {output : OutputView}
    (hs : SessionInv s) (h : readCheck cfg attachment output s = .ok ()) :
    s.binding.identity = attachment ∧ 0 < output.size / kPacketSize := by
  unfold readCheck at h
  split at h
  · cases h
  rename_i hargs
  split at h
  · rename_i hid
    simp only [Bool.or_eq_true, Bool.and_eq_true, sameAttachment_iff] at hid
    refine ⟨?_, ?_⟩
    · rcases hid with ⟨-, hid⟩ | ⟨hd, hid⟩
      · exact hid
      · rw [← (hs.draining hd).2, hid]
    · simp only [not_or, kPacketSize] at hargs ⊢
      omega
  · cases h

/-- **The session block of an attach** starts from an empty ring and fresh counters. -/
theorem SessionInv.attachSession {cfg : Config} {attachment : TunerAttachment} {env : AttachEnv}
    (h : SessionInv s) (ha : Stream.attachSession cfg attachment env s = .ok s') :
    SessionInv s' ∧ s'.queue.count = 0 ∧ s'.counters = {} ∧ s'.terminal = .none ∧
      s'.binding = { attached := true, identity := attachment } := by
  unfold Stream.attachSession at ha
  split at ha
  · cases ha
  split at ha
  · cases ha
  split at ha
  · cases ha
  split at ha
  · cases ha
  split at ha
  · cases ha
  rename_i queue hqueue
  cases ha
  have hpos : 0 < cfg.queuePackets := Nat.lt_of_lt_of_le (by decide) cfg.queue_ok.1
  obtain ⟨hwf, hsome⟩ := Queue.allocate_wf h.wf hpos hqueue
  exact ⟨⟨hwf, fun _ => hsome, nofun, nofun, rfl⟩, rfl, rfl, rfl, rfl⟩

/-- The session of a bridge that did not start. -/
def startFailed (s : Session) : Session :=
  { s with
    binding := { s.binding with attached := false }
    terminal := .stopped
    queue := { s.queue with count := 0 } }

theorem attach_of_ok {cfg : Config} {attachment : TunerAttachment} {env : AttachEnv}
    (ha : Stream.attachSession cfg attachment env s = .ok s') :
    (attach cfg attachment env s).1 = s' ∨ (attach cfg attachment env s).1 = startFailed s' := by
  simp only [attach, ha]
  split
  · exact .inl rfl
  · exact .inr rfl

theorem attach_of_error {cfg : Config} {attachment : TunerAttachment} {env : AttachEnv}
    {err : Error} (ha : Stream.attachSession cfg attachment env s = .error err) :
    (attach cfg attachment env s).1 = s := by
  simp only [attach, ha]

theorem SessionInv.startFailed (h : SessionInv s) (hc : s.counters = {})
    (hb : s.binding.draining = false) : SessionInv (Stream.startFailed s) where
  wf := h.wf.clear
  alloc := nofun
  draining := fun hd => by simp [Stream.startFailed, hb] at hd
  final := fun _ => rfl
  drops := by simp [Stream.startFailed, hc]

theorem SessionInv.attach (h : SessionInv s) (cfg : Config) (attachment : TunerAttachment)
    (env : AttachEnv) : SessionInv (Stream.attach cfg attachment env s).1 := by
  cases ha : Stream.attachSession cfg attachment env s with
  | error err => rw [attach_of_error ha]; exact h
  | ok s' =>
    obtain ⟨hs, -, hcounters, -, hbinding⟩ := h.attachSession ha
    rcases attach_of_ok ha with heq | heq
    · rw [heq]; exact hs
    · rw [heq]; exact hs.startFailed hcounters (by rw [hbinding])

theorem SessionInv.detach (h : SessionInv s) (cfg : Config) (attachment : TunerAttachment)
    (stopped : Result Unit) : SessionInv (Stream.detach cfg attachment stopped s).1 := by
  unfold Stream.detach
  split
  · exact h
  split
  · exact h
  refine ⟨h.wf, nofun, fun _ => ⟨rfl, rfl⟩, fun _ => rfl, ?_⟩
  simpa only [finalTerminal_slow] using h.drops

theorem SessionInv.releaseFinal (h : SessionInv s) (cfg : Config) (attachment : TunerAttachment) :
    SessionInv (Stream.releaseFinal cfg attachment s).1 := by
  unfold Stream.releaseFinal
  split
  · exact h
  · exact ⟨h.wf.clear, h.alloc, nofun, h.final, h.drops⟩

theorem SessionInv.endSession (h : SessionInv s) : SessionInv (Stream.endSession s) := by
  unfold Stream.endSession
  split
  · refine ⟨h.wf.clear, nofun, nofun, fun _ => rfl, ?_⟩
    simpa only [finalTerminal_slow] using h.drops
  · exact h

theorem SessionInv.failSnapshot (h : SessionInv s) : SessionInv (Stream.failSnapshot s) := by
  unfold Stream.failSnapshot
  split
  · exact ⟨h.wf, h.alloc, h.draining, h.final, h.drops⟩
  · exact h

theorem SessionInv.streamStep (h : SessionInv s) (hst : StreamStep s s') : SessionInv s' := by
  cases hst with
  | quiet hq => exact h.quiet hq
  | stored _ hst => exact h.stored hst
  | dropped hd => exact h.dropped hd
  | marked hm => exact h.marked hm

/-- **Every operation** keeps the invariant of a session. -/
theorem SessionInv.step (h : SessionInv s) (cfg : Config) (op : Op) :
    SessionInv (Stream.step cfg s op) := by
  cases op with
  | attach attachment env => exact h.attach cfg attachment env
  | detach attachment stopped => exact h.detach cfg attachment stopped
  | read attachment output =>
    simp only [Stream.step, Stream.read]
    split
    · exact h
    · exact h.readCopy output.size
  | releaseFinal attachment => exact h.releaseFinal cfg attachment
  | shutdown stopped =>
    cases stopped with
    | ok _ => exact h.endSession
    | error err => exact h.endSession.failSnapshot
  | _ => exact h.streamStep (step_stream cfg rfl s)

end

end Px4.Stream
