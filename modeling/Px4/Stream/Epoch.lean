import Px4.Stream.Session
import Px4.Lib.Run

/-!
# The packets of one attachment

`Epoch` keeps beside a session what went through its ring since the last attach: the packets put
into it, the bytes that reads returned, and whether the ring has been given up by `release_final`
or `shutdown`. An attach that reaches the session block starts a new epoch.
-/

namespace Px4.Stream

/-- A session and what its ring has carried under the present attachment. -/
structure Epoch where
  session : Session := {}
  put : List Packet := []
  got : List UInt8 := []
  released : Bool := false

/-- The bytes of a list of packets. -/
def bytesOf (packets : List Packet) : List UInt8 := packets.flatMap Packet.bytes

/-- The bytes a read returns. -/
def readBytes : Result StreamReadResult → List UInt8
  | .ok r => r.output
  | .error _ => []

/-- One operation; a packet has been put into the ring when it is there one longer. -/
def Epoch.step (cfg : Config) (e : Epoch) (op : Op) : Epoch :=
  let session := Stream.step cfg e.session op
  match op with
  | .attach attachment env =>
    match attachSession cfg attachment env e.session with
    | .ok _ => { session }
    | .error _ => { e with session }
  | .packet packet =>
    if session.queue.count = e.session.queue.count + 1 then
      { e with session, put := e.put ++ [packet] }
    else { e with session }
  | .read attachment output =>
    { e with session, got := e.got ++ readBytes (read cfg attachment output e.session).2 }
  | .releaseFinal attachment =>
    match (releaseFinal cfg attachment e.session).2 with
    | .ok () => { e with session, released := true }
    | .error _ => { e with session }
  | .shutdown _ => { e with session, released := true }
  | _ => { e with session }

/-- A run from the first state of a session. -/
def Epoch.run (cfg : Config) (ops : List Op) : Epoch := ops.foldl (Epoch.step cfg) {}

end Px4.Stream
