import Px4.Stream.Epoch
import Px4.Ts.History

/-!
# The published stream

What a client could check for itself: a fresh continuity checker run over exactly the packets that
were put into the ring under the present attachment. `Published` keeps beside the epoch whether a
wire mark has dropped a packet since the session left stabilization.
-/

namespace Px4.Stream

open Px4.Ts Px4.Ts.Continuity

/-- One packet of a replay. -/
def replayPacket (r : ContinuityChecker × Nat) (packet : Packet) : ContinuityChecker × Nat :=
  let (result, checker) := r.1.observe (some packet.bytes)
  (checker, r.2 + if result.kind = .error then 1 else 0)

/-- A fresh checker over some packets, with the number of continuity errors it reports. -/
def replay (packets : List Packet) : ContinuityChecker × Nat := packets.foldl replayPacket ({}, 0)

/-- A session with its epoch. -/
structure Published where
  epoch : Epoch := {}
  /-- a wire mark has dropped a packet since the session left stabilization -/
  wireTei : Bool := false

/-- One operation. -/
def Published.step (cfg : Config) (p : Published) (op : Op) : Published where
  epoch := p.epoch.step cfg op
  wireTei :=
    match op with
    | .attach attachment env =>
      match attachSession cfg attachment env p.epoch.session with
      | .ok _ => false
      | .error _ => p.wireTei
    | .wireTei =>
      p.wireTei || (p.epoch.session.live && !p.epoch.session.gate.stabilizing)
    | _ => p.wireTei

/-- The session publishes what it has verified: it has left stabilization, not by a fallback, and no
packet was dropped by a wire mark since. -/
def Published.Verified (p : Published) : Prop :=
  p.epoch.session.gate.stabilizing = false ∧
    p.epoch.session.gate.startupBudgetFallback = false ∧ p.wireTei = false

instance (p : Published) : Decidable p.Verified := inferInstanceAs (Decidable (_ ∧ _ ∧ _))

/-- No continuity error of the published stream is missing from the session's counter. -/
def NoHiddenError (p : Published) : Prop :=
  p.Verified → (replay p.epoch.put).2 ≤ p.epoch.session.counters.continuityErrors

instance (p : Published) : Decidable (NoHiddenError p) := inferInstanceAs (Decidable (_ → _))

/-- The last packet of a PID among some packets. -/
def lastOf (pid : Nat) (packets : List Packet) : Option Packet :=
  packets.reverse.find? fun packet => (Continuity.Op.observe (some packet.bytes)).trustedOn pid

/-- A packet without discontinuity indicator, of a PID not yet established, that is published all
the same: it carries no payload, or it follows the last payload packet withheld. -/
def unestablished (g : Startup) (packet : Packet) : Bool :=
  let state := g.continuity (pidOf packet.bytes)
  classify (some packet.bytes) == .trusted && !signalsDiscontinuity packet.bytes &&
    !state.established && (!hasPayload packet.bytes ||
      state.seen && counterOf packet.bytes == (state.counter + 1) % 16)

/-- The counter of a packet continues that of the last packet of its PID among those published. -/
def continues (packet : Packet) (put : List Packet) : Bool :=
  match lastOf (pidOf packet.bytes) put with
  | none => true
  | some last =>
    counterOf packet.bytes ==
      (counterOf last.bytes + if hasPayload packet.bytes then 1 else 0) % 16

/-- When a step hides no error: a packet of a PID not yet established that enters the ring continues
what was published of its PID. -/
def PublishCond (p : Published) : Op → Prop
  | .packet packet =>
    p.Verified → p.epoch.session.live = true →
    p.epoch.session.queue.count ≠ p.epoch.session.queue.capacity →
    unestablished p.epoch.session.gate packet = true → continues packet p.epoch.put = true
  | _ => True

end Px4.Stream
