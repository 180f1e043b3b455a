import Px4.Ts.Continuity

/-!
# Continuity by history

What the continuity checker is for, in terms of the calls made so far and without any state: the
verdict on a packet is a function (`verdict`) of the trusted packets of its PID since the last reset
and of whether anything untrusted was seen since the last of them. Histories list the latest call
first.
-/

namespace Px4.Ts.Continuity

/-- A call of the checker. -/
inductive Op
  | observe (packet : Option (List UInt8))
  | observeUntrustedPacket
  | reset
  deriving DecidableEq

/-- What a packet is on its own. -/
inductive PacketClass
  | malformed | transportError | null | trusted
  deriving DecidableEq, Repr

/-- A packet of the wrong size or sync byte, without payload and adaptation field, or with a
malformed adaptation field is malformed, unless its error bit or the null PID comes first. -/
def classify : Option (List UInt8) → PacketClass
  | none => .malformed
  | some packet =>
    if packet.length ≠ kPacketSize ∨ byte packet 0 ≠ 0x47 then .malformed
    else if byte packet 1 &&& 0x80 ≠ 0 then .transportError
    else if pidOf packet = 0x1fff then .null
    else if adaptationOf packet = 0 ∨ (adaptationField packet).valid = false then .malformed
    else .trusted

/-- Does a packet carry payload? -/
def hasPayload (packet : List UInt8) : Bool := decide (adaptationOf packet &&& 1 ≠ 0)

/-- Does a packet carry a PCR? -/
def hasPcr (packet : List UInt8) : Bool := (adaptationField packet).hasPcr

/-- Does a packet signal a discontinuity? -/
def signalsDiscontinuity (packet : List UInt8) : Bool := (adaptationField packet).discontinuity

/-- A packet with the 42 bits of its PCR cleared. -/
def maskPcr (packet : List UInt8) : List UInt8 :=
  if hasPcr packet then
    packet.take 6 ++ [0, 0, 0, 0, byte packet 10 &&& 0x7e, 0] ++ packet.drop 12
  else packet

/-- Does the packet, which came after `earlier` on its PID, repeat the counter with payload? -/
def isRepeat (packet : List UInt8) : List (List UInt8) → Bool
  | [] => false
  | prev :: _ =>
    !signalsDiscontinuity packet && hasPayload packet && counterOf packet == counterOf prev

/-- The verdict on a trusted packet, from the trusted packets of its PID (latest first) and whether
something untrusted came after them. -/
def verdict (packet : List UInt8) (untrusted : Bool) : List (List UInt8) → ContinuityKind
  | earlier =>
    if signalsDiscontinuity packet then .discontinuity
    else match earlier with
      | [] => .initial
      | prev :: rest =>
        if hasPayload packet ∧ hasPayload prev ∧ counterOf packet = counterOf prev ∧
            isRepeat prev rest = false ∧ untrusted = false ∧ maskPcr prev = maskPcr packet then
          .duplicate
        else if counterOf packet =
            if hasPayload packet then (counterOf prev + 1) % 16 else counterOf prev then
          .continuous
        else .error

/-- Is this call a trusted packet of `pid`? -/
def Op.trustedOn (pid : Nat) : Op → Bool
  | observe (some packet) => classify (some packet) = .trusted ∧ pidOf packet = pid
  | _ => false

/-- Is this call an untrusted observation: a malformed packet, one with its error bit set, or a
report of one? -/
def Op.untrusted : Op → Bool
  | observe packet => classify packet = .malformed ∨ classify packet = .transportError
  | observeUntrustedPacket => true
  | reset => false

/-- The trusted packets of `pid` since the last reset. -/
def trustedOf (pid : Nat) : List Op → List (List UInt8)
  | [] => []
  | .reset :: _ => []
  | .observeUntrustedPacket :: history => trustedOf pid history
  | .observe none :: history => trustedOf pid history
  | .observe (some packet) :: history =>
    if (Op.observe (some packet)).trustedOn pid then packet :: trustedOf pid history
    else trustedOf pid history

/-- Was anything untrusted observed since the last trusted packet of `pid`? -/
def untrustedSince (pid : Nat) : List Op → Bool
  | [] => false
  | op :: history =>
    if op = .reset ∨ op.trustedOn pid then false else op.untrusted || untrustedSince pid history

/-- The verdict on a packet after a history. -/
def kindAfter (history : List Op) (packet : Option (List UInt8)) : ContinuityKind :=
  match classify packet, packet with
  | .trusted, some packet =>
    verdict packet (untrustedSince (pidOf packet) history) (trustedOf (pidOf packet) history)
  | .null, _ => .nullPacket
  | .transportError, _ => .transportError
  | _, _ => .invalidPacket

end Px4.Ts.Continuity
