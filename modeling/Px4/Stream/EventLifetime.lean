import Px4.Lib.Run
import Px4.Stream.Bridge

/-!
# The lifetime of a stream event

The pump works on the buffer of an event without a lock. `EventIntact` says that this buffer is
still there and that libusb does not have it; `DrainCond` names the step that can break this.
-/

namespace Px4.Usb

/-- The buffer is one of the stream's. -/
def StreamState.owns (st : StreamState) (buffer : Nat) : Bool :=
  (List.range st.count).any fun i =>
    (st.slots i).buffer == buffer || (st.ready i).buffer == buffer

/-- The buffer is that of a transfer that libusb has. -/
def StreamState.lent (st : StreamState) (buffer : Nat) : Bool :=
  (List.range st.count).any fun i =>
    (st.slots i).status == .submitted && (st.slots i).buffer == buffer

/-- The stream states that have not been freed. -/
def Transport.states (t : Transport) : List StreamState := t.stream.toList ++ t.leaked.toList

/-- The buffer has not been freed and libusb does not have it. -/
def Transport.intact (t : Transport) (buffer : Nat) : Bool :=
  t.states.any (·.owns buffer) && !t.states.any (·.lent buffer)

/-- The outstanding transfers of the stream, if there is one. -/
def Transport.outstanding (t : Transport) : Option Nat := t.stream.map StreamState.outstanding

end Px4.Usb

namespace Px4.Stream

open Usb

/-- The event that the pump is pushing: `wait_stream` has returned it and `demux.push` has not
returned. -/
def Pump.event : Pump → Option StreamEvent
  | .pushing event => some event
  | _ => .none

/-- The buffer of the event that the pump is pushing is intact. -/
def EventIntact (s : Plane) : Prop :=
  s.pump.event.all (fun event => s.transport.intact event.buffer) = true

instance (s : Plane) : Decidable (EventIntact s) := inferInstanceAs (Decidable (_ = true))

/-- The next step comes to the loop of `cancel_and_drain_locked`. -/
def Cleanup.drains : Cleanup → Bool
  | .cancel | .cancelDrain _ | .stop _ | .stopDrain _ _ => true
  | _ => false

@[inherit_doc Cleanup.drains]
def Client.drains : Client → Bool
  | .startDraining _ _ => true
  | .startCleanup _ phase | .stopping _ phase => phase.drains
  | _ => false

/-- When a step breaks no event: a thread that comes to the drain loop while the pump is pushing
finds a transfer outstanding. -/
def DrainCond (s : Plane) : Plane.Act → Prop
  | .client id _ => s.pump.event.isSome = true → (s.clients id).drains = true →
    s.transport.outstanding ≠ some 0
  | _ => True

end Px4.Stream
