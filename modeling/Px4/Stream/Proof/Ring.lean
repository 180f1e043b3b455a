import Px4.Stream.Epoch
import Px4.Stream.Proof.Frame

/-!
# The session ring

`Carried e read` ties a session to its epoch: the packets read and those still queued are the
packets put, in order, and the counters account for each of them.

* `Carried.step` — every operation keeps it, with one lemma for each kind of operation.
* `session_ring` — what it says of every run: reads return a prefix of what was put, no packet is
  unaccounted for, at most one is dropped and then the session is a slow consumer, the end of the
  stream is real, the ring's indices stay inside and a draining attachment is not replaced.
-/

namespace Px4.Stream

/-! ## The invariant -/

/-- `read` is what has been read of the packets put under the present attachment. -/
structure Carried (e : Epoch) (read : List Packet) : Prop where
  got : e.got = bytesOf read
  order : read ++ e.session.queue.queued <+: e.put
  closed : e.released = true → e.session.binding.attached = false
  whole : e.released = false → e.put = read ++ e.session.queue.queued
  packets : e.released = false → e.session.counters.packets =
    read.length + e.session.queue.count + e.session.counters.queueDrops

theorem bytesOf_append (p q : List Packet) : bytesOf (p ++ q) = bytesOf p ++ bytesOf q :=
  List.flatMap_append

theorem bytesOf_length (packets : List Packet) :
    (bytesOf packets).length = packets.length * kPacketSize := by
  induction packets with
  | nil => rfl
  | cons packet packets ih =>
    simp only [bytesOf, List.flatMap_cons, List.length_append, List.length_cons] at ih ⊢
    rw [ih, packet.size_eq, Nat.succ_mul, Nat.add_comm]

/-! ## The operations -/

section

variable {cfg : Config} {e : Epoch} {s s' : Session} {read : List Packet}

/-- An epoch that begins: nothing put, nothing read. -/
theorem Carried.begin (hcount : s.queue.count = 0) (hcounters : s.counters = {}) :
    Carried { session := s } [] := by
  have hempty := Queue.queued_of_count_zero hcount
  refine ⟨rfl, ?_, nofun, fun _ => hempty.symm, fun _ => ?_⟩
  · rw [hempty]; exact List.prefix_refl []
  · simp [hcount, hcounters]

theorem Carried.quiet (h : Carried e read) (hq : Quiet e.session s') :
    Carried { e with session := s' } read where
  got := h.got
  order := by rw [hq.queue]; exact h.order
  closed := by rw [hq.binding]; exact h.closed
  whole := by rw [hq.queue]; exact h.whole
  packets := by rw [hq.packets, hq.queue, hq.queueDrops]; exact h.packets

theorem Carried.marked (h : Carried e read) (hm : Marked e.session s') :
    Carried { e with session := s' } read where
  got := h.got
  order := by rw [hm.queue]; exact h.order
  closed := by rw [hm.binding]; exact h.closed
  whole := by rw [hm.queue]; exact h.whole
  packets := by rw [hm.packets, hm.queue, hm.queueDrops]; exact h.packets

theorem Carried.stored (h : Carried e read) (hs : SessionInv e.session) {packet : Packet}
    (hst : Stored packet e.session s') :
    Carried { e with session := s', put := e.put ++ [packet] } read := by
  have hatt := Session.attached_of_live hst.live
  have hqueued := hs.wf.push_queued (hs.alloc hatt) hst.room packet
  have hopen : e.released = false := by
    by_contra hrel
    have := h.closed (by simpa using hrel)
    simp_all
  have hput : e.put ++ [packet] = read ++ s'.queue.queued := by
    rw [hst.queue, hqueued, h.whole hopen, List.append_assoc]
  refine ⟨h.got, hput ▸ List.prefix_refl _, ?_, fun _ => hput, fun _ => ?_⟩
  · rw [hst.binding]; exact h.closed
  · have := h.packets hopen
    have hcount : s'.queue.count = e.session.queue.count + 1 := by rw [hst.queue]; rfl
    simp only [hst.packets, hst.queueDrops, hcount]
    omega

theorem Carried.dropped (h : Carried e read) (hd : Dropped e.session s') :
    Carried { e with session := s' } read := by
  refine ⟨h.got, ?_, ?_, ?_, fun hopen => ?_⟩
  · rw [hd.queue]; exact h.order
  · rw [hd.binding]; exact h.closed
  · rw [hd.queue]; exact h.whole
  · have := h.packets hopen
    simp only [hd.packets, hd.queueDrops, hd.queue]
    omega

theorem Carried.packet (h : Carried e read) (hs : SessionInv e.session) (packet : Packet) :
    Carried (e.step cfg (.packet packet)) read := by
  simp only [Epoch.step]
  rcases enqueue_cases cfg.stabilization packet e.session with hq | hst | hd
  · have hqueue : (Stream.step cfg e.session (.packet packet)).queue = e.session.queue := hq.queue
    rw [if_neg (by rw [hqueue]; omega)]
    exact h.quiet hq
  · have hqueue : (Stream.step cfg e.session (.packet packet)).queue =
        e.session.queue.push packet := hst.queue
    rw [if_pos (by rw [hqueue]; rfl)]
    exact h.stored hs hst
  · have hqueue : (Stream.step cfg e.session (.packet packet)).queue = e.session.queue := hd.queue
    rw [if_neg (by rw [hqueue]; omega)]
    exact h.dropped hd

/-- Clearing the ring keeps what was read a prefix of what was put. -/
theorem Carried.clear (h : Carried e read) (hatt : s'.binding.attached = false)
    (hcount : s'.queue.count = 0) : Carried { e with session := s', released := true } read := by
  refine ⟨h.got, ?_, fun _ => hatt, nofun, nofun⟩
  rw [Queue.queued_of_count_zero hcount, List.append_nil]
  exact (List.prefix_append read _).trans h.order

/-- A read moves the packets it returns from the queue to those read. -/
theorem Carried.readCopy (h : Carried e read) (hs : SessionInv e.session) (size : Nat) :
    ∃ read', Carried { e with
      session := (Stream.readCopy size e.session).1
      got := e.got ++ (Stream.readCopy size e.session).2.output } read' := by
  simp only [Stream.readCopy]
  split
  · refine ⟨read, ?_⟩
    split <;> simp only [List.append_nil] <;>
      exact ⟨h.got, h.order, h.closed, h.whole, h.packets⟩
  · generalize hn : (if size / kPacketSize > e.session.queue.count then e.session.queue.count
      else size / kPacketSize) = n
    have hle : n ≤ e.session.queue.count := by rw [← hn]; split <;> omega
    obtain ⟨hout, hrest⟩ := hs.wf.pop_queued hle
    have hlen : (e.session.queue.queued.take n).length = n := by
      simp [hs.wf.queued_length, hle]
    have hsplit : (read ++ e.session.queue.queued.take n) ++ e.session.queue.queued.drop n =
        read ++ e.session.queue.queued := by
      rw [List.append_assoc, List.take_append_drop]
    refine ⟨read ++ e.session.queue.queued.take n, ?_, ?_, h.closed, fun hopen => ?_,
      fun hopen => ?_⟩
    · show e.got ++ bytesOf (e.session.queue.pop n).2 = _
      rw [h.got, hout, bytesOf_append]
    · rw [hrest, hsplit]; exact h.order
    · rw [hrest, hsplit]; exact h.whole hopen
    · have hcount : (e.session.queue.pop n).1.count = e.session.queue.count - n := rfl
      have := h.packets hopen
      simp only [List.length_append, hlen, hcount]
      omega

theorem Carried.attach (h : Carried e read) (hs : SessionInv e.session)
    (attachment : TunerAttachment) (env : AttachEnv) :
    ∃ read', Carried (e.step cfg (.attach attachment env)) read' := by
  simp only [Epoch.step, Stream.step]
  cases ha : attachSession cfg attachment env e.session with
  | error err =>
    rw [attach_of_error ha]
    exact ⟨read, h⟩
  | ok s' =>
    obtain ⟨-, hcount, hcounters, -, -⟩ := hs.attachSession ha
    refine ⟨[], ?_⟩
    rcases attach_of_ok ha with heq | heq
    · rw [heq]; exact Carried.begin hcount hcounters
    · rw [heq]; exact Carried.begin rfl hcounters

theorem Carried.detach (h : Carried e read) (attachment : TunerAttachment)
    (stopped : Result Unit) :
    Carried { e with session := (Stream.detach cfg attachment stopped e.session).1 } read := by
  unfold Stream.detach
  split
  · exact h
  split
  · exact h
  exact ⟨h.got, h.order, fun _ => rfl, h.whole, h.packets⟩

theorem Carried.releaseFinal (h : Carried e read) (hs : SessionInv e.session)
    (attachment : TunerAttachment) : Carried (e.step cfg (.releaseFinal attachment)) read := by
  simp only [Epoch.step, Stream.step]
  by_cases hargs : validReceiver cfg.layout attachment.receiver = false ∨
      e.session.binding.finalSnapshotValid = false ∨
      sameAttachment e.session.binding.finalIdentity attachment = false
  · simp only [Stream.releaseFinal, if_pos hargs]
    exact h
  · simp only [Stream.releaseFinal, if_neg hargs]
    simp only [not_or, Bool.not_eq_false] at hargs
    exact h.clear (hs.final hargs.2.1) rfl

theorem Carried.endSession (h : Carried e read) :
    Carried { e with session := Stream.endSession e.session, released := true } read := by
  unfold Stream.endSession
  split
  · exact h.clear rfl rfl
  · rename_i hatt
    exact ⟨h.got, h.order, fun _ => by simpa using hatt, nofun, nofun⟩

theorem Carried.failSnapshot (h : Carried e read) :
    Carried { e with session := Stream.failSnapshot e.session } read := by
  unfold Stream.failSnapshot
  split
  · exact ⟨h.got, h.order, h.closed, h.whole, h.packets⟩
  · exact h

/-- **Every operation** keeps the packets read and queued in the order of those put. -/
theorem Carried.step (h : Carried e read) (hs : SessionInv e.session) (op : Op) :
    ∃ read', Carried (e.step cfg op) read' := by
  cases op with
  | attach attachment env => exact h.attach hs attachment env
  | detach attachment stopped => exact ⟨read, h.detach attachment stopped⟩
  | read attachment output =>
    simp only [Epoch.step, Stream.step, Stream.read]
    cases readCheck cfg attachment output e.session with
    | error err => exact ⟨read, by simpa [readBytes] using h⟩
    | ok _ => exact h.readCopy hs output.size
  | releaseFinal attachment => exact ⟨read, h.releaseFinal hs attachment⟩
  | shutdown stopped =>
    cases stopped with
    | ok _ => exact ⟨read, h.endSession⟩
    | error err => exact ⟨read, h.endSession.failSnapshot⟩
  | packet packet => exact ⟨read, h.packet hs packet⟩
  | wireTei => exact ⟨read, h.quiet (countWireTei_quiet _)⟩
  | eventEnd losses publishedBefore => exact ⟨read, h.quiet (countSyncDeltas_quiet losses _ _)⟩
  | empty => exact ⟨read, h.quiet (countEmpty_quiet _)⟩
  | waitFailed err =>
    exact ⟨read, (markBridgeTerminal_cases _ (terminalForError_ne err)).elim h.quiet h.marked⟩
  | pushFailed err =>
    exact ⟨read, (markBridgeTerminal_cases _ (terminalForPush_ne err)).elim h.quiet h.marked⟩
  | enclosureFatal => exact ⟨read, (markAllTerminal_cases _).elim h.quiet h.marked⟩

/-! ## Runs -/

/-- The invariant of a session and its epoch. -/
def EpochInv (e : Epoch) : Prop := SessionInv e.session ∧ ∃ read, Carried e read

theorem Epoch.step_session (e : Epoch) (op : Op) :
    (e.step cfg op).session = Stream.step cfg e.session op := by
  cases op <;> simp only [Epoch.step] <;> (try split) <;> rfl

theorem epochInv_run (cfg : Config) (ops : List Op) : EpochInv (Epoch.run cfg ops) := by
  refine Lib.foldl_inv (fun e op h => ?_) ops
    ⟨sessionInv_init, [], Carried.begin (s := {}) rfl rfl⟩
  obtain ⟨hs, read, hr⟩ := h
  exact ⟨by rw [Epoch.step_session]; exact hs.step cfg op, hr.step hs op⟩

theorem read_identity {attachment : TunerAttachment} {output : OutputView} {r : StreamReadResult}
    (h : SessionInv s) (hr : (Stream.read cfg attachment output s).2 = .ok r) :
    attachment = s.binding.identity ∧ (readCopy output.size s).2 = r := by
  unfold Stream.read at hr
  split at hr
  · cases hr
  rename_i hcheck
  exact ⟨(readCheck_ok h hcheck).1.symm, by simpa using hr⟩

theorem readCopy_eof {size : Nat} (h : (readCopy size s).2.eof = true) :
    s.queue.count = 0 ∧ s.terminal ≠ .none := by
  unfold readCopy at h
  split at h
  · rename_i hcount
    split at h
    · rename_i hterm
      exact ⟨hcount, hterm⟩
    · cases h
  · cases h

/-- A draining session refuses every attach and is left as it is. -/
theorem attach_draining (hd : s.binding.draining = true) (attachment : TunerAttachment)
    (env : AttachEnv) : ∃ err, Stream.attach cfg attachment env s = (s, .error err) := by
  have hbusy : ∃ err, attachSession cfg attachment env s = .error err := by
    simp only [attachSession, hd, Bool.or_true, if_true]
    split
    · exact ⟨_, rfl⟩
    split
    · exact ⟨_, rfl⟩
    split <;> exact ⟨_, rfl⟩
  obtain ⟨err, herr⟩ := hbusy
  exact ⟨err, by simp [Stream.attach, herr]⟩

end

/-- **The session ring over runs.** For every run of a session, with the bytes read, the packets put
and the ring since the last attach:
the bytes read are a prefix of the packets put, and with the packets queued they are all of them
until the ring is given up, as the counters say; a packet is dropped at most once, exactly when the
session is a slow consumer; an end of stream means an empty queue and a terminal state, and only the
attachment's own reads return; the ring's indices are inside; a draining session refuses attach. -/
theorem session_ring (cfg : Config) (ops : List Op) :
    let e := Epoch.run cfg ops
    let s := e.session
    e.got <+: bytesOf e.put ∧
    (e.released = false → bytesOf e.put = e.got ++ bytesOf s.queue.queued ∧
      s.counters.packets = e.got.length / kPacketSize + s.queue.count + s.counters.queueDrops) ∧
    s.counters.queueDrops ≤ 1 ∧ (s.counters.queueDrops = 1 ↔ s.terminal = .slowConsumer) ∧
    (∀ attachment output r, (read cfg attachment output s).2 = .ok r →
      attachment = s.binding.identity ∧
        (r.eof = true → s.queue.count = 0 ∧ s.terminal ≠ .none)) ∧
    (s.queue.packets.isSome = true → s.queue.head < s.queue.capacity) ∧
    s.queue.count ≤ s.queue.capacity ∧
    (s.binding.draining = true → ∀ attachment env, ∃ err,
      attach cfg attachment env s = (s, .error err)) := by
  intro e s
  obtain ⟨hs, read, hr⟩ : EpochInv e := epochInv_run cfg ops
  have hdrops : s.counters.queueDrops = if s.terminal = .slowConsumer then 1 else 0 := hs.drops
  have hprefix : read <+: e.put := (List.prefix_append read _).trans hr.order
  refine ⟨?_, fun hopen => ⟨?_, ?_⟩, ?_, ?_, fun attachment output r hread => ?_, hs.wf.head_lt,
    hs.wf.count_le, fun hd => attach_draining hd⟩
  · obtain ⟨rest, hrest⟩ := hprefix
    exact ⟨bytesOf rest, by rw [hr.got, ← hrest, bytesOf_append]⟩
  · rw [hr.got, hr.whole hopen, bytesOf_append]
  · rw [hr.packets hopen, hr.got, bytesOf_length, Nat.mul_div_cancel _ (by decide)]
  · rw [hdrops]
    split <;> omega
  · rw [hdrops]
    split <;> simp_all
  · obtain ⟨hid, hcopy⟩ := read_identity hs hread
    exact ⟨hid, fun heof => readCopy_eof (hcopy ▸ heof)⟩

end Px4.Stream
