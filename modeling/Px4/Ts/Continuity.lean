import Px4.Core

/-!
# `TsContinuityChecker` (`ts_continuity.h`)

The continuity-counter observer of one stream. `states_` is a function of the PID; every index
used is below `kPidCount` (`pid_lt`). The epoch of untrusted observations is a `uint64_t`, whose
wrap `invalidate_duplicate_adjacency` handles. A packet argument is a possibly null byte string of
any size.
-/

namespace Px4.Ts

/-- `TsContinuityKind`. -/
inductive ContinuityKind
  | initial | continuous | duplicate | discontinuity | error | nullPacket | transportError
  | invalidPacket
  deriving DecidableEq, Repr

/-- `TsContinuityResult`. -/
structure ContinuityResult where
  kind : ContinuityKind := .invalidPacket
  pid : Nat := 0
  counter : Nat := 0
  hasPayload : Bool := false
  discontinuity : Bool := false
  deriving DecidableEq, Repr

namespace Continuity

/-- `TsContinuityChecker::kPacketSize`. -/
def kPacketSize : Nat := 188

/-- `TsContinuityChecker::kPidCount`. -/
def kPidCount : Nat := 8192

/-- The largest `untrusted_epoch_`. -/
def kMaxEpoch : Nat := 2 ^ 64 - 1

/-- `packet[i]`. -/
def byte (packet : List UInt8) (i : Nat) : UInt8 := packet.getD i 0

/-- The PID of a packet. -/
def pidOf (packet : List UInt8) : Nat :=
  ((byte packet 1 &&& 0x1f).toNat <<< 8) ||| (byte packet 2).toNat

/-- The continuity counter of a packet. -/
def counterOf (packet : List UInt8) : Nat := (byte packet 3 &&& 0x0f).toNat

/-- The adaptation field control of a packet. -/
def adaptationOf (packet : List UInt8) : UInt8 := (byte packet 3 >>> 4) &&& 3

/-- `TsContinuityChecker::State`. -/
structure PidState where
  trustedEpoch : Nat := 0
  packet : List UInt8 := List.replicate 188 0
  counter : Nat := 0
  seen : Bool := false
  hasPayload : Bool := false
  repeated : Bool := false
  deriving DecidableEq, Repr

/-- What `observe` reads off the adaptation field. -/
structure AdaptationField where
  valid : Bool := true
  discontinuity : Bool := false
  hasPcr : Bool := false
  deriving DecidableEq, Repr

/-- The part of `observe` that checks the adaptation field. -/
def adaptationField (packet : List UInt8) : AdaptationField :=
  let adaptation := adaptationOf packet
  if adaptation &&& 2 ≠ 0 then
    let length := (byte packet 4).toNat
    if (adaptation = 2 ∧ length ≠ 183) ∨ (adaptation = 3 ∧ length > 182) then { valid := false }
    else if length ≠ 0 then
      let discontinuity := decide (byte packet 5 &&& 0x80 ≠ 0)
      if byte packet 5 &&& 0x10 ≠ 0 then
        let extension := ((byte packet 10 &&& 1).toNat <<< 8) ||| (byte packet 11).toNat
        if length < 7 ∨ byte packet 10 &&& 0x7e ≠ 0x7e ∨ extension ≥ 300 then
          { valid := false, discontinuity, hasPcr := true }
        else { discontinuity, hasPcr := true }
      else { discontinuity }
    else {}
  else {}

/-- `equivalent`. -/
def equivalent (previous packet : List UInt8) (hasPcr : Bool) : Bool :=
  if hasPcr then
    previous.take 6 == packet.take 6 &&
      byte previous 10 &&& 0x7e == byte packet 10 &&& 0x7e &&
      previous.drop 12 == packet.drop 12
  else previous == packet

end Continuity

open Continuity

/-- `TsContinuityChecker`. -/
structure ContinuityChecker where
  states : Nat → PidState := fun _ => {}
  untrustedEpoch : Nat := 0

namespace ContinuityChecker

/-- `reset`. -/
def reset (c : ContinuityChecker) : ContinuityChecker where
  states := fun pid => { c.states pid with seen := false }
  untrustedEpoch := 0

/-- `invalidate_duplicate_adjacency`. -/
def invalidateDuplicateAdjacency (c : ContinuityChecker) : ContinuityChecker :=
  if c.untrustedEpoch = kMaxEpoch then
    { states := fun pid => { c.states pid with hasPayload := false }, untrustedEpoch := 0 }
  else { c with untrustedEpoch := c.untrustedEpoch + 1 }

/-- `observe_untrusted_packet`. -/
def observeUntrustedPacket (c : ContinuityChecker) : ContinuityChecker :=
  c.invalidateDuplicateAdjacency

/-- The kind of a valid packet against the state of its PID, and whether it repeats the counter. -/
def judge (c : ContinuityChecker) (state : PidState) (packet : List UInt8) (counter : Nat)
    (hasPayload discontinuity hasPcr : Bool) : ContinuityKind × Bool :=
  if discontinuity then (.discontinuity, false)
  else if !state.seen then (.initial, false)
  else
    let expected := (state.counter + if hasPayload then 1 else 0) % 16
    let repeated := hasPayload && counter == state.counter
    if repeated && state.hasPayload && !state.repeated &&
        state.trustedEpoch == c.untrustedEpoch && equivalent state.packet packet hasPcr then
      (.duplicate, repeated)
    else (if counter = expected then .continuous else .error, repeated)

/-- The part of `observe` that handles a valid packet: the verdict and the new state of its PID. -/
def observeValid (c : ContinuityChecker) (packet : List UInt8) (discontinuity hasPcr : Bool) :
    ContinuityResult × ContinuityChecker :=
  let pid := pidOf packet
  let counter := counterOf packet
  let hasPayload := decide (adaptationOf packet &&& 1 ≠ 0)
  let (kind, repeated) := c.judge (c.states pid) packet counter hasPayload discontinuity hasPcr
  (⟨kind, pid, counter, hasPayload, discontinuity⟩,
    { c with
      states := Function.update c.states pid
        ⟨c.untrustedEpoch, packet, counter, true, hasPayload, repeated⟩ })

/-- `observe`. -/
def observe (c : ContinuityChecker) (packet : Option (List UInt8)) :
    ContinuityResult × ContinuityChecker :=
  match packet with
  | none => ({}, c.invalidateDuplicateAdjacency)
  | some packet =>
    if packet.length ≠ kPacketSize ∨ byte packet 0 ≠ 0x47 then
      ({}, c.invalidateDuplicateAdjacency)
    else
      let result : ContinuityResult := { pid := pidOf packet, counter := counterOf packet }
      if byte packet 1 &&& 0x80 ≠ 0 then
        ({ result with kind := .transportError }, c.invalidateDuplicateAdjacency)
      else if pidOf packet = 0x1fff then ({ result with kind := .nullPacket }, c)
      else if adaptationOf packet = 0 then (result, c.invalidateDuplicateAdjacency)
      else
        let hasPayload := decide (adaptationOf packet &&& 1 ≠ 0)
        let field := adaptationField packet
        if field.valid then c.observeValid packet field.discontinuity field.hasPcr
        else
          ({ result with hasPayload, discontinuity := field.discontinuity },
            c.invalidateDuplicateAdjacency)

end ContinuityChecker

/-- Every PID is an index of `states_`. -/
theorem pid_lt (packet : List UInt8) : pidOf packet < kPidCount := by
  have h1 : ((byte packet 1 &&& 0x1f).toNat <<< 8) < 2 ^ 13 := by
    have : (byte packet 1 &&& 0x1f).toNat ≤ 31 := by
      rw [UInt8.toNat_and]
      exact Nat.and_le_right
    rw [Nat.shiftLeft_eq]
    omega
  have h2 : (byte packet 2).toNat < 2 ^ 13 := Nat.lt_trans (UInt8.toNat_lt _) (by decide)
  exact Nat.or_lt_two_pow h1 h2

end Px4.Ts
