import Px4.Lib.Incremental
import Px4.Ts.Demux

/-!
# The one-shot reference parser

What the demultiplexer is for, on a byte string that is there as a whole: an unlocked parser slips
one byte at a time until four packets in a row start with a valid sync byte; a locked one takes a
packet at a time, emits it with its first byte rewritten if its tag is admissible and skips it
otherwise, and a packet that does not start with a valid sync byte costs the lock and one byte.

The parser is an incremental machine (`Lib.Incremental`): each step is decided by the bytes it
sees (`refStep_stable`). Its outputs are the `Event`s of the stream; the counters, the emitted
packets and the observer's calls are read off them.
-/

namespace Px4.Ts

/-- The mode of a demultiplexer. -/
structure Config where
  maxTag : UInt8
  plainTs : Bool
  deriving DecidableEq, Repr

namespace Config

/-- Does a packet of this stream start with `x`? -/
def boundary (cfg : Config) (x : UInt8) : Bool :=
  if cfg.plainTs then x == 0x47 else x &&& 0x0f == 0x07

/-- The receiver of a packet that starts with `x`, if its tag is admissible: plain streams have one
receiver; otherwise the tag is in `1..maxTag` and the error bit is clear. -/
def receiver? (cfg : Config) (x : UInt8) : Option Nat :=
  if cfg.plainTs then some 0
  else
    let tag := (x >>> 4) &&& 0x07
    if tag ≠ 0 ∧ tag ≤ cfg.maxTag ∧ x &&& 0x80 = 0 then some (tag.toNat - 1) else none

/-- Four sync positions in a row, from the first byte on. -/
def lockable (cfg : Config) (b : List UInt8) : Bool :=
  (List.range kSyncPacketCount).all fun k => (b[k * kPacketSize]?).any cfg.boundary

end Config

/-- What the parser does with the bytes it consumes. -/
inductive Event
  | slip
  | loss
  | skipped (wireSync : UInt8)
  | packet (receiver : Nat) (bytes : List UInt8)
  deriving DecidableEq, Repr

namespace Event

/-- The bytes an event consumes. -/
def size : Event → Nat
  | slip | loss => 1
  | skipped _ | packet _ _ => kPacketSize

def isPacket : Event → Bool
  | packet _ _ => true
  | _ => false

def isSkipped : Event → Bool
  | skipped _ => true
  | _ => false

def isLoss : Event → Bool
  | loss => true
  | _ => false

/-- Is a single byte discarded? -/
def isDiscard : Event → Bool
  | slip | loss => true
  | _ => false

/-- The packet handed to a receiver. -/
def emitted? : Event → Option (Nat × List UInt8)
  | packet receiver bytes => some (receiver, bytes)
  | _ => none

/-- The sync byte shown to the observer: that of a skipped packet with its error bit set. -/
def observed? : Event → Option UInt8
  | skipped x => if x &&& 0x80 ≠ 0 then some x else none
  | _ => none

end Event

/-- One step of the parser, locked or not, on the bytes left. -/
def refStep (cfg : Config) (locked : Bool) (b : List UInt8) :
    Option (Bool × List UInt8 × List Event) :=
  if locked then
    if b.length < kPacketSize then none
    else
      let x := b.headD 0
      if cfg.boundary x then
        match cfg.receiver? x with
        | some receiver =>
          some (true, b.drop kPacketSize, [.packet receiver ((b.take kPacketSize).set 0 0x47)])
        | none => some (true, b.drop kPacketSize, [.skipped x])
      else some (false, b.tail, [.loss])
  else if b.length < kSyncPacketCount * kPacketSize then none
  else if cfg.lockable b then some (true, b, [])
  else some (false, b.tail, [.slip])

theorem refStep_locked (cfg : Config) {b : List UInt8} (h : kPacketSize ≤ b.length) :
    refStep cfg true b =
      if cfg.boundary (b.headD 0) then
        match cfg.receiver? (b.headD 0) with
        | some receiver =>
          some (true, b.drop kPacketSize, [.packet receiver ((b.take kPacketSize).set 0 0x47)])
        | none => some (true, b.drop kPacketSize, [.skipped (b.headD 0)])
      else some (false, b.tail, [.loss]) := by
  simp [refStep, Nat.not_lt.2 h]

theorem refStep_unlocked (cfg : Config) {b : List UInt8}
    (h : kSyncPacketCount * kPacketSize ≤ b.length) :
    refStep cfg false b =
      if cfg.lockable b then some (true, b, []) else some (false, b.tail, [.slip]) := by
  simp [refStep, Nat.not_lt.2 h]

theorem lockable_append (cfg : Config) {b : List UInt8} (c : List UInt8)
    (h : kSyncPacketCount * kPacketSize ≤ b.length) : cfg.lockable (b ++ c) = cfg.lockable b := by
  unfold Config.lockable
  rw [Bool.eq_iff_iff, List.all_eq_true, List.all_eq_true]
  refine forall₂_congr fun k hk => ?_
  have hk : k < kSyncPacketCount := List.mem_range.1 hk
  rw [List.getElem?_append_left (by simp only [kSyncPacketCount, kPacketSize] at *; omega)]

/-- A locked step is the same when more bytes follow. -/
theorem refStep_locked_append (cfg : Config) {b : List UInt8} (c : List UInt8)
    (h : kPacketSize ≤ b.length) :
    refStep cfg true (b ++ c) = (refStep cfg true b).map fun r => (r.1, r.2.1 ++ c, r.2.2) := by
  have hne : b ≠ [] := by rintro rfl; simp [kPacketSize] at h
  have hhead : (b ++ c).headD 0 = b.headD 0 := by
    cases b with
    | nil => exact absurd rfl hne
    | cons x b => rfl
  rw [refStep_locked cfg h, refStep_locked cfg (by rw [List.length_append]; omega), hhead]
  split
  · split <;>
      simp [List.drop_append_of_le_length h, List.take_append_of_le_length h]
  · simp [List.tail_append_of_ne_nil hne]

theorem refStep_unlocked_append (cfg : Config) {b : List UInt8} (c : List UInt8)
    (h : kSyncPacketCount * kPacketSize ≤ b.length) :
    refStep cfg false (b ++ c) = (refStep cfg false b).map fun r => (r.1, r.2.1 ++ c, r.2.2) := by
  have hne : b ≠ [] := by rintro rfl; simp [kSyncPacketCount, kPacketSize] at h
  rw [refStep_unlocked cfg h, refStep_unlocked cfg (by rw [List.length_append]; omega),
    lockable_append cfg c h]
  split
  · rfl
  · simp [List.tail_append_of_ne_nil hne]

/-- **A step is decided by the bytes it sees.** -/
theorem refStep_stable (cfg : Config) {s : Bool} {b : List UInt8} {s' : Bool} {b' : List UInt8}
    {o : List Event} (c : List UInt8) (h : refStep cfg s b = some (s', b', o)) :
    refStep cfg s (b ++ c) = some (s', b' ++ c, o) := by
  cases s with
  | true =>
    have hl : kPacketSize ≤ b.length := by
      by_contra hc
      simp [refStep, Nat.not_le.1 hc] at h
    rw [refStep_locked_append cfg c hl, h]
    rfl
  | false =>
    have hl : kSyncPacketCount * kPacketSize ≤ b.length := by
      by_contra hc
      simp [refStep, Nat.not_le.1 hc] at h
    rw [refStep_unlocked_append cfg c hl, h]
    rfl

/-- Every step consumes what its events say, and takes the lock when it consumes nothing. -/
theorem refStep_size (cfg : Config) {s : Bool} {b : List UInt8} {s' : Bool} {b' : List UInt8}
    {o : List Event} (h : refStep cfg s b = some (s', b', o)) :
    (o.map Event.size).sum + b'.length = b.length ∧
      (b'.length < b.length ∨ (s = false ∧ s' = true ∧ b' = b)) := by
  unfold refStep at h
  split at h
  · split at h
    · cases h
    · rename_i hl
      have hp : kPacketSize = 188 := rfl
      dsimp only at h
      split at h
      · split at h
        all_goals
          simp only [Option.some.injEq, Prod.mk.injEq] at h
          obtain ⟨rfl, rfl, rfl⟩ := h
          simp [Event.size]
          omega
      · simp only [Option.some.injEq, Prod.mk.injEq] at h
        obtain ⟨rfl, rfl, rfl⟩ := h
        simp [Event.size]
        omega
  · split at h
    · cases h
    · rename_i hu hl
      have hp : kSyncPacketCount * kPacketSize = 752 := rfl
      split at h
      · simp only [Option.some.injEq, Prod.mk.injEq] at h
        obtain ⟨rfl, rfl, rfl⟩ := h
        simpa using hu
      · simp only [Option.some.injEq, Prod.mk.injEq] at h
        obtain ⟨rfl, rfl, rfl⟩ := h
        simp [Event.size]
        omega

/-- The reference parser. -/
def reference (cfg : Config) : Lib.Incremental Bool UInt8 Event where
  step := refStep cfg
  rank locked b := 2 * b.length + if locked then 0 else 1
  rank_lt {s b s' b' o} h := by
    rcases (refStep_size cfg h).2 with hlt | ⟨rfl, rfl, rfl⟩
    · cases s <;> cases s' <;> simp <;> omega
    · simp
  stable c h := refStep_stable cfg c h

/-- The events of the reference parser on a whole byte string. -/
def referenceEvents (cfg : Config) (b : List UInt8) : List Event :=
  ((reference cfg).run false b).2.2

/-- The bytes the reference parser leaves, waiting for more. -/
def referenceRest (cfg : Config) (b : List UInt8) : List UInt8 := ((reference cfg).run false b).2.1

/-- The (receiver, packet) pairs the reference parser emits. -/
def referencePackets (cfg : Config) (b : List UInt8) : List (Nat × List UInt8) :=
  (referenceEvents cfg b).filterMap Event.emitted?

/-- The sync bytes the reference parser shows to the observer. -/
def referenceObserved (cfg : Config) (b : List UInt8) : List UInt8 :=
  (referenceEvents cfg b).filterMap Event.observed?

/-- The counters that go with the events `ev` on the input `b` with `rest` left. -/
def countersOf (b : List UInt8) (ev : List Event) (rest : List UInt8) : Counters where
  inputBytesAccepted := b.length
  emittedPackets := ev.countP Event.isPacket
  discardedSyncSearchBytes := ev.countP Event.isDiscard
  invalidTagPackets := ev.countP Event.isSkipped
  syncLossEvents := ev.countP Event.isLoss
  bufferedBytes := rest.length

/-- The counters of the reference parser. -/
def referenceCounters (cfg : Config) (b : List UInt8) : Counters :=
  countersOf b (referenceEvents cfg b) (referenceRest cfg b)

/-- **Byte conservation of the parser**: what was read is consumed by an event or left. -/
theorem reach_size {cfg : Config} {s s' : Bool} {b b' : List UInt8} {o : List Event}
    (h : (reference cfg).Reach s b o s' b') : (o.map Event.size).sum + b'.length = b.length := by
  induction h with
  | refl => simp
  | step hs _ ih =>
    have := (refStep_size cfg hs).1
    simp only [List.map_append, List.sum_append]
    omega

/-- An event consumes a packet or discards a byte. -/
theorem sum_size (ev : List Event) :
    (ev.map Event.size).sum =
      kPacketSize * (ev.countP Event.isPacket + ev.countP Event.isSkipped) +
        ev.countP Event.isDiscard := by
  induction ev with
  | nil => rfl
  | cons e ev ih =>
    rw [List.map_cons, List.sum_cons, ih]
    cases e <;>
      simp [Event.size, Event.isPacket, Event.isSkipped, Event.isDiscard, List.countP_cons,
        kPacketSize] <;> omega

end Px4.Ts
