import Px4.Ts.Reference

/-!
# One iteration of the demultiplexer

`Tracks cfg acc ev d`: the demultiplexer `d` has accepted the bytes `acc`, and the reference parser
reaches, with the events `ev`, the lock and the pending bytes of `d`; the counters of `d` are those
of `ev`. It is kept by every iteration of the loop in `push` (`iterate_tracks`), whatever the sink
answers, and says what the iteration did: the events it added, the calls it made for them
(`Calls.Match`), and that it either consumed bytes or ended the loop.

* `acquireSync_spec`: the scan of `acquire_sync` is a run of slips of the parser.
* `handlePacket_spec`: one packet of a synchronized stream is one step of the parser, unless the
  sink refuses it; a refused packet stays at the head of the buffer.
-/

namespace Px4.Ts

/-! ## Recorded calls -/

/-- A call `push` makes. -/
inductive Call
  | sink (receiver : Nat) (packet : List UInt8) (result : Result Unit)
  | observer (wireSync : UInt8)
  deriving DecidableEq

namespace Call

/-- The packet of a successful sink call. -/
def emitted? : Call → Option (Nat × List UInt8)
  | sink receiver packet (.ok ()) => some (receiver, packet)
  | _ => none

/-- The argument of an observer call. -/
def observed? : Call → Option UInt8
  | observer x => some x
  | _ => none

/-- A sink call that failed. -/
def failed : Call → Bool
  | sink _ _ (.error _) => true
  | _ => false

end Call

/-- What a call or an event does to the context. -/
inductive Effect
  | emit (receiver : Nat) (packet : List UInt8)
  | observe (wireSync : UInt8)
  deriving DecidableEq

/-- The effect of a call that did not fail. -/
def Call.effect? : Call → Option Effect
  | .sink receiver packet (.ok ()) => some (.emit receiver packet)
  | .sink _ _ (.error _) => none
  | .observer x => some (.observe x)

/-- The effect of an event. -/
def Event.effect? : Event → Option Effect
  | .packet receiver bytes => some (.emit receiver bytes)
  | .skipped x => if x &&& 0x80 ≠ 0 then some (.observe x) else none
  | _ => none

variable {σ : Type}

/-- The sink, with a log of its calls. -/
def recordSink (sink : PacketSink σ) : PacketSink (σ × List Call) := fun context receiver packet =>
  let r := sink context.1 receiver packet
  ((r.1, context.2 ++ [.sink receiver packet r.2]), r.2)

/-- The observer, with a log of its calls. -/
def recordObserver (observer : InvalidTagObserver σ) : InvalidTagObserver (σ × List Call) :=
  fun context wireSync => (observer context.1 wireSync, context.2 ++ [.observer wireSync])

/-- The calls made for the events `ev`: the successful ones are the events' packets, and with an
observer installed, its calls are the events' too, in the order of the events. -/
structure Match (observed : Bool) (ev : List Event) (calls : List Call) : Prop where
  emitted : calls.filterMap Call.emitted? = ev.filterMap Event.emitted?
  ordered : observed = true → calls.filterMap Call.effect? = ev.filterMap Event.effect?
  observed : observed = true → calls.filterMap Call.observed? = ev.filterMap Event.observed?

theorem Match.nil (observed : Bool) : Match observed [] [] := ⟨rfl, fun _ => rfl, fun _ => rfl⟩

theorem Match.append {observed : Bool} {ev ev' : List Event} {calls calls' : List Call}
    (h : Match observed ev calls) (h' : Match observed ev' calls') :
    Match observed (ev ++ ev') (calls ++ calls') where
  emitted := by rw [List.filterMap_append, List.filterMap_append, h.emitted, h'.emitted]
  observed ho := by
    rw [List.filterMap_append, List.filterMap_append, h.observed ho, h'.observed ho]
  ordered ho := by
    rw [List.filterMap_append, List.filterMap_append, h.ordered ho, h'.ordered ho]

/-! ## Pending bytes -/

namespace TaggedTsDemux

/-- The pending bytes. -/
def bytes (d : TaggedTsDemux) : List UInt8 :=
  (d.pending.map fun m => Lib.slice m d.pendingOffset d.pendingSize).getD []

variable {d : TaggedTsDemux} {m : Nat → UInt8}

theorem bytes_eq (hp : d.pending = some m) :
    d.bytes = Lib.slice m d.pendingOffset d.pendingSize := by
  simp [bytes, hp]

theorem bytes_length (hp : d.pending = some m) : d.bytes.length = d.pendingSize := by
  simp [bytes_eq hp]

/-- A read of a pending byte stays in the buffer. -/
theorem pendingAt_bytes (hp : d.pending = some m)
    (hb : d.pendingOffset + d.pendingSize ≤ kPendingCapacity) {i : Nat} (hi : i < d.pendingSize) :
    d.pendingAt (d.pendingOffset + i) = d.bytes[i]? := by
  rw [bytes_eq hp, Lib.getElem?_slice m hi, pendingAt, hp, Option.bind_some,
    Lib.read?_of_lt m (by omega)]

/-- The packet at the head of the buffer is read as a whole. -/
theorem read_packet (hp : d.pending = some m)
    (hb : d.pendingOffset + d.pendingSize ≤ kPendingCapacity) (hs : kPacketSize ≤ d.pendingSize) :
    (d.pending.bind fun m => Lib.readN? kPendingCapacity m d.pendingOffset kPacketSize) =
      some (d.bytes.take kPacketSize) := by
  rw [hp, Option.bind_some, Lib.readN?_of_le m (by omega), bytes_eq hp,
    Lib.slice_take m _ hs]

theorem discardBytes_pending (d : TaggedTsDemux) (k : Nat) :
    (d.discardBytes k).pending = d.pending := by
  unfold discardBytes; split <;> rfl

theorem discardBytes_synchronized (d : TaggedTsDemux) (k : Nat) :
    (d.discardBytes k).synchronized = d.synchronized := by
  unfold discardBytes; split <;> rfl

theorem discardBytes_offset (d : TaggedTsDemux) (k : Nat) :
    (d.discardBytes k).pendingOffset = d.pendingOffset + k := by
  unfold discardBytes; split
  · simp_all
  · rfl

theorem discardBytes_size (d : TaggedTsDemux) (k : Nat) :
    (d.discardBytes k).pendingSize = d.pendingSize - k := by
  unfold discardBytes; split
  · simp_all
  · rfl

theorem discardBytes_discarded (d : TaggedTsDemux) (k : Nat) :
    (d.discardBytes k).discardedSyncSearchBytes = d.discardedSyncSearchBytes + k := by
  unfold discardBytes; split
  · simp_all
  · rfl

end TaggedTsDemux

/-! ## Synchronization -/

/-- `d` runs in the mode `cfg`. -/
structure Mode (cfg : Config) (d : TaggedTsDemux) : Prop where
  plainTs : d.plainTs = cfg.plainTs
  maxTag : d.maxTag = if cfg.maxTag > 7 then 7 else cfg.maxTag

section
variable {cfg : Config} {d : TaggedTsDemux} {m : Nat → UInt8}

theorem Mode.boundary (hm : Mode cfg d) (x : UInt8) : d.isPacketBoundary x = cfg.boundary x := by
  simp [TaggedTsDemux.isPacketBoundary, Config.boundary, hm.plainTs]

/-- The inner loop of the scan tests whether the parser can lock at `start`. -/
theorem validStart_eq (hm : Mode cfg d) (hp : d.pending = some m)
    (hb : d.pendingOffset + d.pendingSize ≤ kPendingCapacity) {start : Nat}
    (hs : start + kSyncPacketCount * kPacketSize ≤ d.pendingSize) :
    d.validStart start kSyncPacketCount = some (cfg.lockable (d.bytes.drop start)) := by
  have hq : kSyncPacketCount * kPacketSize = 752 := rfl
  have hk : ∀ k < kSyncPacketCount,
      d.pendingAt (d.pendingOffset + start + k * kPacketSize) =
        (d.bytes.drop start)[k * kPacketSize]? := by
    intro k hk
    simp only [kSyncPacketCount, kPacketSize] at hk ⊢
    rw [Nat.add_assoc, TaggedTsDemux.pendingAt_bytes hp hb (by omega), List.getElem?_drop]
  have hx : ∀ k < kSyncPacketCount, ∃ x, (d.bytes.drop start)[k * kPacketSize]? = some x := by
    intro k hk
    refine ⟨_, List.getElem?_eq_getElem ?_⟩
    simp only [kSyncPacketCount, kPacketSize] at hk ⊢
    rw [List.length_drop, TaggedTsDemux.bytes_length hp]
    omega
  obtain ⟨x₀, h₀⟩ := hx 0 (by decide)
  obtain ⟨x₁, h₁⟩ := hx 1 (by decide)
  obtain ⟨x₂, h₂⟩ := hx 2 (by decide)
  obtain ⟨x₃, h₃⟩ := hx 3 (by decide)
  have hl : cfg.lockable (d.bytes.drop start) =
      (cfg.boundary x₀ && (cfg.boundary x₁ && (cfg.boundary x₂ && cfg.boundary x₃))) := by
    simp only [Config.lockable, kSyncPacketCount, List.range_succ, List.range_zero, List.nil_append,
      List.cons_append, List.all_cons, List.all_nil, h₀, h₁, h₂, h₃, Option.any_some, Bool.and_true]
  rw [hl]
  show d.validStart start (3 + 1) = _
  simp only [TaggedTsDemux.validStart, show kSyncPacketCount - (3 + 1) = 0 from rfl,
    show kSyncPacketCount - (2 + 1) = 1 from rfl, show kSyncPacketCount - (1 + 1) = 2 from rfl,
    show kSyncPacketCount - (0 + 1) = 3 from rfl, hk 0 (by decide), hk 1 (by decide),
    hk 2 (by decide), hk 3 (by decide), h₀, h₁, h₂, h₃, Option.bind_eq_bind, Option.bind_some,
    hm.boundary]
  cases cfg.boundary x₀ <;> cases cfg.boundary x₁ <;> cases cfg.boundary x₂ <;>
    cases cfg.boundary x₃ <;> rfl

/-- A slip of the parser. -/
theorem reach_slip (cfg : Config) {b : List UInt8} (hl : kSyncPacketCount * kPacketSize ≤ b.length)
    (hn : cfg.lockable b = false) : (reference cfg).Reach false b [.slip] false (b.drop 1) := by
  refine .one ?_
  show refStep cfg false b = _
  rw [refStep_unlocked cfg hl, hn, List.drop_one]
  rfl

/-- The outer loop of the scan: `k` slips, then a valid start or the end of the range. -/
theorem findStart_spec (hm : Mode cfg d) (hp : d.pending = some m)
    (hb : d.pendingOffset + d.pendingSize ≤ kPendingCapacity) :
    ∀ (left start : Nat), start + left + (kSyncPacketCount * kPacketSize - 1) ≤ d.pendingSize →
      ∃ k ≤ left, (reference cfg).Reach false (d.bytes.drop start) (List.replicate k .slip) false
          (d.bytes.drop (start + k)) ∧
        (d.findStart start left = some (some (start + k)) ∧ k < left ∧
            cfg.lockable (d.bytes.drop (start + k)) = true ∨
          d.findStart start left = some none ∧ k = left)
  | 0, start, _ => ⟨0, Nat.le_refl _, .refl _ _, .inr ⟨rfl, rfl⟩⟩
  | left + 1, start, h => by
    have hq : kSyncPacketCount * kPacketSize = 752 := rfl
    have hv : d.validStart start kSyncPacketCount = some (cfg.lockable (d.bytes.drop start)) :=
      validStart_eq hm hp hb (by omega)
    cases hl : cfg.lockable (d.bytes.drop start) with
    | true =>
      refine ⟨0, Nat.zero_le _, .refl _ _, .inl ⟨?_, Nat.succ_pos _, hl⟩⟩
      simp [TaggedTsDemux.findStart, hv, hl]
    | false =>
      obtain ⟨k, hk, hr, hf⟩ := findStart_spec hm hp hb left (start + 1) (by omega)
      have hslip := reach_slip cfg (b := d.bytes.drop start)
        (by rw [List.length_drop, TaggedTsDemux.bytes_length hp]; omega) hl
      rw [List.drop_drop] at hslip
      have he : d.findStart start (left + 1) = d.findStart (start + 1) left := by
        simp [TaggedTsDemux.findStart, hv, hl]
      refine ⟨k + 1, by omega, ?_, ?_⟩
      · rw [show start + (k + 1) = start + 1 + k by omega]
        exact hslip.trans hr
      · rw [he, show start + (k + 1) = start + 1 + k by omega]
        rcases hf with ⟨hf, hlt, hlk⟩ | ⟨hf, rfl⟩
        · exact .inl ⟨hf, by omega, hlk⟩
        · exact .inr ⟨hf, rfl⟩

/-- **`acquire_sync` is a run of slips**, to a position where the parser locks or to fewer bytes
than it needs. -/
theorem acquireSync_spec (hm : Mode cfg d) (hp : d.pending = some m)
    (hb : d.pendingOffset + d.pendingSize ≤ kPendingCapacity) :
    ∃ k found, d.acquireSync = some (found, d.discardBytes k) ∧ k ≤ d.pendingSize ∧
      (reference cfg).Reach false d.bytes (List.replicate k .slip) false (d.bytes.drop k) ∧
      (found = true → (reference cfg).Reach false (d.bytes.drop k) [] true (d.bytes.drop k)) ∧
      (found = false → d.pendingSize - k < kSyncPacketCount * kPacketSize) := by
  have hq : kSyncPacketCount * kPacketSize = 752 := rfl
  by_cases hs : d.pendingSize < kSyncPacketCount * kPacketSize
  · refine ⟨0, false, ?_, Nat.zero_le _, .refl _ _, nofun, fun _ => by omega⟩
    simp [TaggedTsDemux.acquireSync, hs, TaggedTsDemux.discardBytes]
  · obtain ⟨k, hk, hr, hf⟩ := findStart_spec hm hp hb
      (d.pendingSize - kSyncPacketCount * kPacketSize + 1) 0 (by omega)
    rw [List.drop_zero, Nat.zero_add] at hr
    rw [Nat.zero_add] at hf
    rcases hf with ⟨hf, hlt, hlk⟩ | ⟨hf, hk⟩
    · refine ⟨k, true, ?_, by omega, hr, fun _ => .one ?_, nofun⟩
      · simp [TaggedTsDemux.acquireSync, hs, hf]
      · show refStep cfg false _ = _
        rw [refStep_unlocked cfg (by rw [List.length_drop, TaggedTsDemux.bytes_length hp]; omega),
          hlk]
        rfl
    · refine ⟨k, false, ?_, by omega, hr, nofun, fun _ => by omega⟩
      simp only [TaggedTsDemux.acquireSync, hs, if_false, hf, Option.bind_eq_bind,
        Option.bind_some]
      rw [show d.pendingSize - (kSyncPacketCount * kPacketSize - 1) = k by omega]

/-! ## Tags -/

/-- The clamp of the constructor leaves every three-bit tag's admission as it is. -/
theorem tag_gt_clamp (x maxTag : UInt8) :
    (x >>> 4) &&& 0x07 > (if maxTag > 7 then 7 else maxTag) ↔ (x >>> 4) &&& 0x07 > maxTag := by
  have h7 : (x >>> 4) &&& 0x07 ≤ 7 := by
    rw [UInt8.le_iff_toNat_le, UInt8.toNat_and]
    exact Nat.and_le_right
  generalize (x >>> 4) &&& 0x07 = tag at h7
  split
  · rename_i hm
    simp only [gt_iff_lt, UInt8.lt_iff_toNat_lt, UInt8.le_iff_toNat_le] at *
    omega
  · rfl

/-- The branch of `push` that skips a packet is the reference's. -/
theorem receiver?_eq (hm : Mode cfg d) (hpl : d.plainTs = false) (x : UInt8) :
    cfg.receiver? x =
      if (x >>> 4) &&& 0x07 = 0 ∨ (x >>> 4) &&& 0x07 > d.maxTag ∨ x &&& 0x80 ≠ 0 then none
      else some (((x >>> 4) &&& 0x07).toNat - 1) := by
  rw [hm.maxTag]
  simp only [tag_gt_clamp, Config.receiver?, ← hm.plainTs, hpl, Bool.false_eq_true, if_false]
  by_cases h0 : (x >>> 4) &&& 0x07 = 0
  · simp [h0]
  · by_cases h1 : (x >>> 4) &&& 0x07 > cfg.maxTag
    · simp [h0, h1, UInt8.not_le.2 h1]
    · by_cases h2 : x &&& 0x80 = 0
      · simp [h0, h1, h2, UInt8.not_lt.1 h1]
      · simp [h2]

end

/-! ## Tracking the reference -/

/-- `d` has accepted `acc`, and the reference parser got, with the events `ev`, as far as `d`. -/
structure Tracks (cfg : Config) (acc : List UInt8) (ev : List Event) (d : TaggedTsDemux) :
    Prop where
  mode : Mode cfg d
  pending : ∃ m, d.pending = some m
  bound : d.pendingOffset + d.pendingSize ≤ kPendingCapacity
  reach : (reference cfg).Reach false acc ev d.synchronized d.bytes
  counters : d.counters = countersOf acc ev d.bytes

/-- `d'` and `log'` are got from `ev` and `log` by events with their calls. -/
def Advances (cfg : Config) (observed : Bool) (acc : List UInt8) (ev : List Event) (log : List Call)
    (d' : TaggedTsDemux) (log' : List Call) : Prop :=
  ∃ ev' calls, log' = log ++ calls ∧ Match observed ev' calls ∧ Tracks cfg acc (ev ++ ev') d'

section
variable {cfg : Config} {acc : List UInt8} {ev : List Event} {d : TaggedTsDemux}

theorem Tracks.bytes_length (h : Tracks cfg acc ev d) : d.bytes.length = d.pendingSize := by
  obtain ⟨m, hp⟩ := h.pending
  exact TaggedTsDemux.bytes_length hp

/-- A demultiplexer that dropped `k` bytes from the front has the rest pending. -/
theorem bytes_drop {d d' : TaggedTsDemux} {k : Nat} (hp : d'.pending = d.pending)
    (ho : d'.pendingOffset = d.pendingOffset + k) (hs : d'.pendingSize = d.pendingSize - k) :
    d'.bytes = d.bytes.drop k := by
  unfold TaggedTsDemux.bytes
  rw [hp, ho, hs]
  cases d.pending with
  | none => simp
  | some m => simp [Lib.slice_drop]

/-- A step of the parser that `d'` follows: it drops the `k` bytes the events consume. -/
theorem Tracks.step (h : Tracks cfg acc ev d) {ev' : List Event} {k : Nat} {d' : TaggedTsDemux}
    (hr : (reference cfg).Reach d.synchronized d.bytes ev' d'.synchronized (d.bytes.drop k))
    (hm : Mode cfg d') (hp : d'.pending = d.pending)
    (ho : d'.pendingOffset = d.pendingOffset + k) (hs : d'.pendingSize = d.pendingSize - k)
    (hk : k ≤ d.pendingSize)
    (hc : d'.counters = countersOf acc (ev ++ ev') (d.bytes.drop k)) :
    Tracks cfg acc (ev ++ ev') d' := by
  have hb := bytes_drop hp ho hs
  refine ⟨hm, hp ▸ h.pending, ?_, ?_, ?_⟩
  · have := h.bound
    rw [ho, hs]
    omega
  · rw [hb]
    exact h.reach.trans hr
  · rw [hb, hc]

theorem Tracks.fields (h : Tracks cfg acc ev d) :
    d.inputBytesAccepted = acc.length ∧ d.emittedPackets = ev.countP Event.isPacket ∧
      d.discardedSyncSearchBytes = ev.countP Event.isDiscard ∧
      d.invalidTagPackets = ev.countP Event.isSkipped ∧
      d.syncLossEvents = ev.countP Event.isLoss := by
  have := h.counters
  simp only [TaggedTsDemux.counters, countersOf, Counters.mk.injEq] at this
  exact ⟨this.1, this.2.1, this.2.2.1, this.2.2.2.1, this.2.2.2.2.1⟩

/-- Slips of an unlocked parser. -/
theorem Tracks.slips {k : Nat} (h : Tracks cfg acc ev d) (hk : k ≤ d.pendingSize)
    (hr : (reference cfg).Reach d.synchronized d.bytes (List.replicate k .slip) d.synchronized
      (d.bytes.drop k)) :
    Tracks cfg acc (ev ++ List.replicate k .slip) (d.discardBytes k) := by
  obtain ⟨h1, h2, h3, h4, h5⟩ := h.fields
  refine h.step (k := k) ?_ ?_ (d.discardBytes_pending k) (d.discardBytes_offset k)
    (d.discardBytes_size k) hk ?_
  · rw [d.discardBytes_synchronized]
    exact hr
  · unfold TaggedTsDemux.discardBytes
    split <;> exact ⟨h.mode.plainTs, h.mode.maxTag⟩
  · have hd := d.discardBytes_discarded k
    have hs := d.discardBytes_size k
    have hrest : (d.discardBytes k).inputBytesAccepted = d.inputBytesAccepted ∧
        (d.discardBytes k).emittedPackets = d.emittedPackets ∧
        (d.discardBytes k).invalidTagPackets = d.invalidTagPackets ∧
        (d.discardBytes k).syncLossEvents = d.syncLossEvents := by
      unfold TaggedTsDemux.discardBytes
      split <;> exact ⟨rfl, rfl, rfl, rfl⟩
    simp [TaggedTsDemux.counters, countersOf, hd, hs, hrest, h1, h2, h3, h4, h5, h.bytes_length,
      List.countP_replicate, Event.isPacket, Event.isDiscard, Event.isSkipped, Event.isLoss]

/-- The parser locks. -/
theorem Tracks.lock (h : Tracks cfg acc ev d)
    (hr : (reference cfg).Reach d.synchronized d.bytes [] true d.bytes) :
    Tracks cfg acc ev { d with synchronized := true } := by
  have hlock : Tracks cfg acc (ev ++ []) { d with synchronized := true } :=
    h.step (k := 0) (by simpa using hr) ⟨h.mode.plainTs, h.mode.maxTag⟩ rfl rfl rfl
      (Nat.zero_le _) (by simpa [TaggedTsDemux.counters] using h.counters)
  simpa using hlock

/-- The lock is lost, with one byte. -/
theorem Tracks.lose (h : Tracks cfg acc ev d) (hsync : d.synchronized = true)
    (hs : kPacketSize ≤ d.pendingSize) (hn : cfg.boundary (d.bytes.headD 0) = false) :
    Tracks cfg acc (ev ++ [.loss])
      ({ d with synchronized := false, syncLossEvents :=
        d.syncLossEvents + 1 }.discardBytes 1) := by
  obtain ⟨h1, h2, h3, h4, h5⟩ := h.fields
  have hl := h.bytes_length
  have hp : kPacketSize = 188 := rfl
  refine h.step (k := 1) (.one ?_) ⟨h.mode.plainTs, h.mode.maxTag⟩ rfl rfl rfl (by omega) ?_
  · show refStep cfg _ _ = some (false, _, _)
    rw [hsync, refStep_locked cfg (by omega), hn, List.drop_one]
    rfl
  · simp [TaggedTsDemux.counters, countersOf, TaggedTsDemux.discardBytes, h1, h2, h3, h4, h5, hl,
      Event.isPacket, Event.isDiscard, Event.isSkipped, Event.isLoss]

/-- A packet is skipped. -/
theorem Tracks.skip (h : Tracks cfg acc ev d) (hsync : d.synchronized = true)
    (hs : kPacketSize ≤ d.pendingSize) (hb : cfg.boundary (d.bytes.headD 0) = true)
    (hr : cfg.receiver? (d.bytes.headD 0) = none) :
    Tracks cfg acc (ev ++ [.skipped (d.bytes.headD 0)])
      { d with invalidTagPackets := d.invalidTagPackets + 1 }.consumePacket := by
  obtain ⟨h1, h2, h3, h4, h5⟩ := h.fields
  have hl := h.bytes_length
  refine h.step (k := kPacketSize) (.one ?_) ⟨h.mode.plainTs, h.mode.maxTag⟩ rfl rfl rfl hs ?_
  · show refStep cfg _ _ = some (d.synchronized, _, _)
    rw [hsync, refStep_locked cfg (by omega), hb, hr]
    rfl
  · simp [TaggedTsDemux.counters, countersOf, TaggedTsDemux.consumePacket, h1, h2, h3, h4, h5, hl,
      Event.isPacket, Event.isDiscard, Event.isSkipped, Event.isLoss]

/-- A packet is emitted. -/
theorem Tracks.emit (h : Tracks cfg acc ev d) (hsync : d.synchronized = true)
    (hs : kPacketSize ≤ d.pendingSize) (hb : cfg.boundary (d.bytes.headD 0) = true) {r : Nat}
    (hr : cfg.receiver? (d.bytes.headD 0) = some r) :
    Tracks cfg acc (ev ++ [.packet r ((d.bytes.take kPacketSize).set 0 0x47)])
      { d with emittedPackets := d.emittedPackets + 1 }.consumePacket := by
  obtain ⟨h1, h2, h3, h4, h5⟩ := h.fields
  have hl := h.bytes_length
  refine h.step (k := kPacketSize) (.one ?_) ⟨h.mode.plainTs, h.mode.maxTag⟩ rfl rfl rfl hs ?_
  · show refStep cfg _ _ = some (d.synchronized, _, _)
    rw [hsync, refStep_locked cfg (by omega), hb, hr]
    rfl
  · simp [TaggedTsDemux.counters, countersOf, TaggedTsDemux.consumePacket, h1, h2, h3, h4, h5, hl,
      Event.isPacket, Event.isDiscard, Event.isSkipped, Event.isLoss]

end

/-! ## Iterations -/

section
variable {cfg : Config} {observed : Bool} {acc : List UInt8} {ev ev₁ : List Event}
  {log calls₁ : List Call} {d : TaggedTsDemux}

/-- Events before others. -/
theorem Advances.after {d' : TaggedTsDemux} {log' : List Call} (hm : Match observed ev₁ calls₁)
    (h : Advances cfg observed acc (ev ++ ev₁) (log ++ calls₁) d' log') :
    Advances cfg observed acc ev log d' log' := by
  obtain ⟨ev', calls, rfl, hm', ht⟩ := h
  refine ⟨ev₁ ++ ev', calls₁ ++ calls, by rw [List.append_assoc], hm.append hm', ?_⟩
  rwa [List.append_assoc] at ht

/-- What an iteration from `d` with the events `ev` and the calls `log` comes to: it goes on with
fewer bytes, or ends where the parser has no step left, or ends after a failed sink call. -/
def IterSpec (cfg : Config) (observed : Bool) (acc : List UInt8) (ev : List Event) (log : List Call)
    (size : Nat) : TaggedTsDemux.Iteration (σ × List Call) → Prop
  | .next d' context => Advances cfg observed acc ev log d' context.2 ∧ d'.pendingSize < size
  | .done (.ok ()) d' context => Advances cfg observed acc ev log d' context.2 ∧
      refStep cfg d'.synchronized d'.bytes = none ∧
      d'.pendingSize < kSyncPacketCount * kPacketSize
  | .done (.error _) d' context => Advances cfg observed acc ev log d' context.2 ∧
      ∃ call ∈ context.2, call.failed = true

theorem IterSpec.after {size size₁ : Nat} {it : TaggedTsDemux.Iteration (σ × List Call)}
    (hm : Match observed ev₁ calls₁) (hsz : size₁ ≤ size)
    (h : IterSpec cfg observed acc (ev ++ ev₁) (log ++ calls₁) size₁ it) :
    IterSpec cfg observed acc ev log size it := by
  match it, h with
  | .next _ _, h => exact ⟨h.1.after hm, Nat.lt_of_lt_of_le h.2 hsz⟩
  | .done (.ok ()) _ _, h => exact ⟨h.1.after hm, h.2⟩
  | .done (.error _) _ _, h => exact ⟨h.1.after hm, h.2⟩

/-- A sink call: a success emits the packet, a failure leaves it at the head of the buffer. -/
theorem offer_spec (sink : PacketSink σ) (context : σ) (h : Tracks cfg acc ev d)
    (hsync : d.synchronized = true) (hs : kPacketSize ≤ d.pendingSize)
    (hb : cfg.boundary (d.bytes.headD 0) = true) {r : Nat}
    (hr : cfg.receiver? (d.bytes.headD 0) = some r) :
    IterSpec cfg observed acc ev log d.pendingSize
      (d.offer (recordSink sink) (context, log) r ((d.bytes.take kPacketSize).set 0 0x47)) := by
  have hp : kPacketSize = 188 := rfl
  unfold TaggedTsDemux.offer recordSink
  dsimp only
  rcases sink context r ((d.bytes.take kPacketSize).set 0 0x47) with ⟨context', _ | ⟨⟩⟩
  · refine ⟨⟨[], _, rfl, ⟨rfl, fun _ => rfl, fun _ => rfl⟩, by rwa [List.append_nil]⟩, ?_⟩
    exact ⟨_, List.mem_append_right _ (List.mem_singleton_self _), rfl⟩
  · refine ⟨⟨_, _, rfl, ⟨rfl, fun _ => rfl, fun _ => rfl⟩, h.emit hsync hs hb hr⟩, ?_⟩
    show d.pendingSize - kPacketSize < d.pendingSize
    omega

/-- A plain packet already starts with the sync byte. -/
theorem set_head_of_eq {b : List UInt8} {x : UInt8} (hne : b ≠ []) (h : b.headD 0 = x) :
    b.set 0 x = b := by
  cases b with
  | nil => exact absurd rfl hne
  | cons y b => simp_all

theorem handlePacket_spec (sink : PacketSink σ) (observer : Option (InvalidTagObserver σ))
    (context : σ) (h : Tracks cfg acc ev d) (hsync : d.synchronized = true)
    (hs : kPacketSize ≤ d.pendingSize) (hb : cfg.boundary (d.bytes.headD 0) = true) :
    ∃ it, d.handlePacket (recordSink sink) (observer.map recordObserver) (context, log)
        (d.bytes.headD 0) = some it ∧
      IterSpec cfg observer.isSome acc ev log d.pendingSize it := by
  obtain ⟨m, hp⟩ := h.pending
  have hk : kPacketSize = 188 := rfl
  have hread := TaggedTsDemux.read_packet hp h.bound hs
  unfold TaggedTsDemux.handlePacket
  by_cases hpl : d.plainTs = true
  · rw [if_pos hpl, hread]
    refine ⟨_, rfl, ?_⟩
    have hcfg : cfg.plainTs = true := by rw [← h.mode.plainTs, hpl]
    have hx : d.bytes.headD 0 = 0x47 := by simpa [Config.boundary, hcfg] using hb
    have hset : (d.bytes.take kPacketSize).set 0 0x47 = d.bytes.take kPacketSize := by
      have hlen := h.bytes_length
      refine set_head_of_eq (fun hnil => ?_) ?_
      · have := congrArg List.length hnil
        simp only [List.length_take, List.length_nil, hlen] at this
        omega
      · cases hbytes : d.bytes with
        | nil => simp [hbytes] at hlen; omega
        | cons y b => simpa [hbytes, kPacketSize] using hx
    have hoffer : IterSpec cfg observer.isSome acc ev log d.pendingSize
        (d.offer (recordSink sink) (context, log) 0 ((d.bytes.take kPacketSize).set 0 0x47)) :=
      offer_spec sink context h hsync hs hb (by simp [Config.receiver?, hcfg])
    rwa [hset] at hoffer
  · have hpl : d.plainTs = false := by simpa using hpl
    have hr := receiver?_eq h.mode hpl (d.bytes.headD 0)
    rw [if_neg (by simp [hpl]), hread]
    dsimp only
    split
    · rename_i hc
      rw [if_pos hc] at hr
      have ht := h.skip hsync hs hb hr
      refine ⟨_, rfl, ?_⟩
      have hlt : d.pendingSize - kPacketSize < d.pendingSize := by omega
      generalize d.bytes.headD 0 = x at ht
      -- the observer sees the packet exactly when its error bit is set
      cases observer with
      | none => exact ⟨⟨_, [], by simp, ⟨rfl, by rintro ⟨⟩, by rintro ⟨⟩⟩, ht⟩, hlt⟩
      | some observer =>
        by_cases h80 : x &&& 0x80 = 0
        · refine ⟨⟨_, [], ?_, ⟨rfl, fun _ => ?_, fun _ => ?_⟩, ht⟩, hlt⟩
          · simp [h80]
          · simp [Event.effect?, h80]
          · simp [Event.observed?, h80]
        · refine ⟨⟨_, [.observer x], ?_, ⟨rfl, fun _ => ?_, fun _ => ?_⟩, ht⟩, hlt⟩
          · simp [h80, recordObserver]
          · simp [Event.effect?, Call.effect?, h80]
          · simp [Event.observed?, Call.observed?, h80]
    · rename_i hc
      rw [if_neg hc] at hr
      exact ⟨_, rfl, offer_spec sink context h hsync hs hb hr⟩

theorem iterateSynchronized_spec (sink : PacketSink σ) (observer : Option (InvalidTagObserver σ))
    (context : σ) (log : List Call) (h : Tracks cfg acc ev d) (hsync : d.synchronized = true) :
    ∃ it, d.iterateSynchronized (recordSink sink) (observer.map recordObserver) (context, log) =
        some it ∧ IterSpec cfg observer.isSome acc ev log d.pendingSize it := by
  obtain ⟨m, hp⟩ := h.pending
  have hk : kPacketSize = 188 := rfl
  have hq : kSyncPacketCount * kPacketSize = 752 := rfl
  have hlen := h.bytes_length
  unfold TaggedTsDemux.iterateSynchronized
  by_cases hs : d.pendingSize < kPacketSize
  · rw [if_pos hs]
    refine ⟨_, rfl, ⟨[], [], by simp, .nil _, by rwa [List.append_nil]⟩, ?_, by omega⟩
    simp [refStep, hsync, hlen, hs]
  · rw [if_neg hs]
    have hs : kPacketSize ≤ d.pendingSize := by omega
    have hhead : d.pendingAt d.pendingOffset = some (d.bytes.headD 0) := by
      have := TaggedTsDemux.pendingAt_bytes hp h.bound (i := 0) (by omega)
      rw [Nat.add_zero] at this
      rw [this]
      cases hbytes : d.bytes with
      | nil => simp [hbytes] at hlen; omega
      | cons x b => rfl
    rw [hhead, Option.bind_eq_bind, Option.bind_some]
    split
    · rename_i hb
      exact handlePacket_spec sink observer context h hsync hs (h.mode.boundary _ ▸ hb)
    · rename_i hb
      rw [h.mode.boundary, Bool.not_eq_true] at hb
      refine ⟨_, rfl, ⟨_, [], by simp, ⟨rfl, fun _ => rfl, fun _ => rfl⟩, h.lose hsync hs hb⟩, ?_⟩
      show d.pendingSize - 1 < d.pendingSize
      omega

/-- **One iteration** of the loop in `push`. -/
theorem iterate_spec (sink : PacketSink σ) (observer : Option (InvalidTagObserver σ))
    (context : σ) (log : List Call) (h : Tracks cfg acc ev d) :
    ∃ it, d.iterate (recordSink sink) (observer.map recordObserver) (context, log) = some it ∧
      IterSpec cfg observer.isSome acc ev log d.pendingSize it := by
  unfold TaggedTsDemux.iterate
  cases hsync : d.synchronized with
  | true => simpa using iterateSynchronized_spec sink observer context log h hsync
  | false =>
    obtain ⟨m, hp⟩ := h.pending
    obtain ⟨k, found, ha, hk, hr, hfound, hnot⟩ := acquireSync_spec h.mode hp h.bound
    have hslips := h.slips hk (by rw [hsync]; exact hr)
    have hbytes : (d.discardBytes k).bytes = d.bytes.drop k :=
      bytes_drop (d.discardBytes_pending k) (d.discardBytes_offset k) (d.discardBytes_size k)
    have hun : (d.discardBytes k).synchronized = false := by rw [d.discardBytes_synchronized, hsync]
    have hmatch : Match observer.isSome (List.replicate k Event.slip) [] := by
      refine ⟨?_, fun _ => ?_, fun _ => ?_⟩ <;>
        simp [List.filterMap_replicate, Event.emitted?, Event.observed?, Event.effect?]
    simp only [Bool.false_eq_true, if_false, ha, Option.bind_eq_bind, Option.bind_some]
    cases found with
    | false =>
      have hlt := hnot rfl
      refine ⟨_, rfl, ⟨_, [], by simp, hmatch, hslips⟩, ?_, ?_⟩
      · have := hslips.bytes_length
        rw [d.discardBytes_size] at this
        simp [refStep, hun, this, hlt]
      · rw [d.discardBytes_size]
        exact hlt
    | true =>
      have hlock := hslips.lock (by rw [hun, hbytes]; exact hfound rfl)
      obtain ⟨it, hit, hspec⟩ :=
        iterateSynchronized_spec sink observer context (log ++ []) hlock rfl
      rw [List.append_nil] at hit
      refine ⟨it, hit, hspec.after hmatch ?_⟩
      show (d.discardBytes k).pendingSize ≤ _
      rw [d.discardBytes_size]
      omega

end

end Px4.Ts
