import Px4.Core

/-!
# `TaggedTsDemux` (`tagged_ts_demux.h`, `tagged_ts_demux.cpp`)

The demultiplexer of the aggregation stream. `pending_` is a block of `kPendingCapacity` cells
(`none` when the allocation failed); every access to it is checked (`Lib.read?`, `Lib.readN?`,
`Lib.write?`), so `push` has a value only if no access leaves the block. The sink and the observer
act on one context `σ` (in the source two `void*`, which may point to the same object).

`push` runs its loop with a fuel of one more than the bytes pending, which is enough
(`Ts.Proof.DemuxStep`): every iteration that goes on consumes at least one byte.
-/

namespace Px4.Ts

/-- `kPacketSize`. -/
def kPacketSize : Nat := 188

/-- `kSyncPacketCount`. -/
def kSyncPacketCount : Nat := 4

/-- `kPendingCapacity`. -/
def kPendingCapacity : Nat := kMaxStreamTransfer + kSyncPacketCount * kPacketSize

/-- `PacketSink` (`receiver_index`, `packet`). -/
abbrev PacketSink (σ : Type) := σ → Nat → List UInt8 → σ × Result Unit

/-- `InvalidTagObserver` (`wire_sync`). -/
abbrev InvalidTagObserver (σ : Type) := σ → UInt8 → σ

/-- `TaggedTsDemux::Counters`. -/
structure Counters where
  inputBytesAccepted : Nat
  emittedPackets : Nat
  discardedSyncSearchBytes : Nat
  invalidTagPackets : Nat
  syncLossEvents : Nat
  bufferedBytes : Nat
  deriving DecidableEq, Repr

/-- `TaggedTsDemux`. -/
structure TaggedTsDemux where
  maxTag : UInt8
  plainTs : Bool
  pending : Option (Nat → UInt8)
  pendingOffset : Nat := 0
  pendingSize : Nat := 0
  synchronized : Bool := false
  inputBytesAccepted : Nat := 0
  emittedPackets : Nat := 0
  discardedSyncSearchBytes : Nat := 0
  invalidTagPackets : Nat := 0
  syncLossEvents : Nat := 0

namespace TaggedTsDemux

/-- The constructor; `alloc` is what `new (std::nothrow)` returned. -/
def new (maxTag : UInt8) (plainTs : Bool) (alloc : Option (Nat → UInt8)) : TaggedTsDemux where
  maxTag := if maxTag > 7 then 7 else maxTag
  plainTs := plainTs
  pending := alloc

/-- `is_packet_boundary`. -/
def isPacketBoundary (d : TaggedTsDemux) (value : UInt8) : Bool :=
  if d.plainTs then value == 0x47 else value &&& 0x0f == 0x07

/-- `compact_pending` (the `memmove` is a copy of the slice it reads). -/
def compactPending (d : TaggedTsDemux) : Option TaggedTsDemux :=
  if d.pendingOffset = 0 then some d
  else if d.pendingSize ≠ 0 then do
    let m ← d.pending
    let bytes ← Lib.readN? kPendingCapacity m d.pendingOffset d.pendingSize
    let m ← Lib.write? kPendingCapacity m 0 bytes
    some { d with pending := some m, pendingOffset := 0 }
  else some { d with pendingOffset := 0 }

/-- `discard_bytes`. -/
def discardBytes (d : TaggedTsDemux) (count : Nat) : TaggedTsDemux :=
  if count = 0 then d
  else { d with
    pendingOffset := d.pendingOffset + count
    pendingSize := d.pendingSize - count
    discardedSyncSearchBytes := d.discardedSyncSearchBytes + count }

/-- `consume_packet`. -/
def consumePacket (d : TaggedTsDemux) : TaggedTsDemux :=
  { d with
    pendingOffset := d.pendingOffset + kPacketSize
    pendingSize := d.pendingSize - kPacketSize }

/-- `pending_[i]`. -/
def pendingAt (d : TaggedTsDemux) (i : Nat) : Option UInt8 :=
  d.pending.bind fun m => Lib.read? kPendingCapacity m i

/-- The inner loop of `acquire_sync` from packet `kSyncPacketCount - left` on: are the remaining
positions packet boundaries? -/
def validStart (d : TaggedTsDemux) (start : Nat) : Nat → Option Bool
  | 0 => some true
  | left + 1 => do
    let packet := kSyncPacketCount - (left + 1)
    let value ← d.pendingAt (d.pendingOffset + start + packet * kPacketSize)
    if d.isPacketBoundary value then d.validStart start left else some false

/-- The outer loop of `acquire_sync`: the first valid start among the next `left` ones. -/
def findStart (d : TaggedTsDemux) (start : Nat) : Nat → Option (Option Nat)
  | 0 => some none
  | left + 1 => do
    let valid ← d.validStart start kSyncPacketCount
    if valid then some (some start) else d.findStart (start + 1) left

/-- `acquire_sync`. -/
def acquireSync (d : TaggedTsDemux) : Option (Bool × TaggedTsDemux) :=
  let required := kSyncPacketCount * kPacketSize
  if d.pendingSize < required then some (false, d)
  else do
    let lastStart := d.pendingSize - required
    match ← d.findStart 0 (lastStart + 1) with
    | some start => some (true, d.discardBytes start)
    | none => some (false, d.discardBytes (d.pendingSize - (required - 1)))

/-- How one iteration of the loop in `push` ends. -/
inductive Iteration (σ : Type)
  | done (result : Result Unit) (d : TaggedTsDemux) (context : σ)
  | next (d : TaggedTsDemux) (context : σ)

variable {σ : Type}

/-- The sink call at the head of the buffer: a failed packet stays there. -/
def offer (d : TaggedTsDemux) (sink : PacketSink σ) (context : σ) (receiver : Nat)
    (packet : List UInt8) : Iteration σ :=
  match sink context receiver packet with
  | (context, .ok ()) =>
    .next { d with emittedPackets := d.emittedPackets + 1 }.consumePacket context
  | (context, .error e) => .done (.error e) d context

/-- The part of an iteration that handles a whole packet of a synchronized stream. -/
def handlePacket (d : TaggedTsDemux) (sink : PacketSink σ)
    (observer : Option (InvalidTagObserver σ)) (context : σ)
    (wireSync : UInt8) : Option (Iteration σ) :=
  if d.plainTs then do
    let packet ← d.pending.bind fun m =>
      Lib.readN? kPendingCapacity m d.pendingOffset kPacketSize
    some (d.offer sink context 0 packet)
  else
    let tag := (wireSync >>> 4) &&& 0x07
    if tag = 0 ∨ tag > d.maxTag ∨ wireSync &&& 0x80 ≠ 0 then
      let context := match observer with
        | some observe => if wireSync &&& 0x80 ≠ 0 then observe context wireSync else context
        | none => context
      some (.next { d with invalidTagPackets := d.invalidTagPackets + 1 }.consumePacket context)
    else do
      let packet ← d.pending.bind fun m =>
        Lib.readN? kPendingCapacity m d.pendingOffset kPacketSize
      some (d.offer sink context (tag.toNat - 1) (packet.set 0 0x47))

/-- One iteration of the loop in `push`, from a synchronized stream on. -/
def iterateSynchronized (d : TaggedTsDemux) (sink : PacketSink σ)
    (observer : Option (InvalidTagObserver σ)) (context : σ) : Option (Iteration σ) :=
  if d.pendingSize < kPacketSize then some (.done (.ok ()) d context)
  else do
    let wireSync ← d.pendingAt d.pendingOffset
    if d.isPacketBoundary wireSync then d.handlePacket sink observer context wireSync
    else
      some (.next ({ d with synchronized := false, syncLossEvents :=
        d.syncLossEvents + 1 }.discardBytes 1)
        context)

/-- One iteration of the loop in `push`. -/
def iterate (d : TaggedTsDemux) (sink : PacketSink σ) (observer : Option (InvalidTagObserver σ))
    (context : σ) : Option (Iteration σ) :=
  if d.synchronized then d.iterateSynchronized sink observer context
  else do
    match ← d.acquireSync with
    | (false, d) => some (.done (.ok ()) d context)
    | (true, d) => iterateSynchronized { d with synchronized := true } sink observer context

/-- The loop in `push`; out of fuel it has no value. -/
def loop (sink : PacketSink σ) (observer : Option (InvalidTagObserver σ)) :
    Nat → TaggedTsDemux → σ → Option (Result Unit × TaggedTsDemux × σ)
  | 0, _, _ => none
  | fuel + 1, d, context => do
    match ← d.iterate sink observer context with
    | .done result d context => some (result, d, context)
    | .next d context => loop sink observer fuel d context

/-- The `memcpy` of the input behind the pending bytes. -/
def writeInput (d : TaggedTsDemux) (input : ByteView) : Option TaggedTsDemux := do
  let m ← d.pending
  let m ← Lib.write? kPendingCapacity m (d.pendingOffset + d.pendingSize) input.bytes
  some { d with
    pending := some m
    pendingSize := d.pendingSize + input.size
    inputBytesAccepted := d.inputBytesAccepted + input.size }

/-- The copy of the input, after a compaction if the tail is too short. -/
def copyInput (d : TaggedTsDemux) (input : ByteView) : Option TaggedTsDemux :=
  if input.size ≠ 0 then
    let availableTail := sizeSub (sizeSub kPendingCapacity d.pendingOffset) d.pendingSize
    if input.size > availableTail then d.compactPending.bind (writeInput · input)
    else d.writeInput input
  else some d

/-- `push`. -/
def push (d : TaggedTsDemux) (input : ByteView) (sink : Option (PacketSink σ)) (context : σ)
    (observer : Option (InvalidTagObserver σ)) : Option (Result Unit × TaggedTsDemux × σ) :=
  match sink with
  | none => some (.error .invalidArgument, d, context)
  | some sink =>
    if (input.size ≠ 0 ∧ input.data = none) ∨ input.size > kMaxStreamTransfer then
      some (.error .invalidArgument, d, context)
    else if d.pending.isNone then some (.error .internal, d, context)
    else if d.pendingSize > kPendingCapacity ∨ input.size > kPendingCapacity - d.pendingSize then
      some (.error .slowConsumer, d, context)
    else do
      let d ← d.copyInput input
      loop sink observer (d.pendingSize + 1) d context

/-- `reset`. -/
def reset (d : TaggedTsDemux) : TaggedTsDemux :=
  { maxTag := d.maxTag, plainTs := d.plainTs, pending := d.pending }

/-- `counters`. -/
def counters (d : TaggedTsDemux) : Counters :=
  ⟨d.inputBytesAccepted, d.emittedPackets, d.discardedSyncSearchBytes, d.invalidTagPackets,
    d.syncLossEvents, d.pendingSize⟩

end TaggedTsDemux

/-! ## Runs of `push` -/

variable {σ : Type}

/-- The arguments of one `push`. -/
structure PushCall (σ : Type) where
  input : ByteView
  sink : Option (PacketSink σ)
  observer : Option (InvalidTagObserver σ)

/-- Successive `push` calls, with their results in order. -/
def pushAll : TaggedTsDemux → σ → List (PushCall σ) →
    Option (List (Result Unit) × TaggedTsDemux × σ)
  | d, context, [] => some ([], d, context)
  | d, context, call :: calls => do
    let (result, d, context) ← d.push call.input call.sink context call.observer
    let (results, d, context) ← pushAll d context calls
    some (result :: results, d, context)

end Px4.Ts
