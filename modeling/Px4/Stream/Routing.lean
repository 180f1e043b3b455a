import Px4.Stream.Session
import Px4.Ts.Demux
import Px4.It930x.Inputs

/-!
# From the aggregation stream to the sessions (`q3u4_stream.cpp`)

The stream layout of each enclosure, the demultiplexer of a bridge and its two callbacks.
`packet_sink` and `wire_tag_observer` act on the sessions through `enqueue` and `count_wire_tei`,
one session at a time under its mutex; such a call is a `Delivery`. What the calls do to the state
is a parameter `deliver` here, so that other threads may act on the sessions between two of them;
`Sessions.deliver` is the sessions' own.
-/

namespace Px4.Stream

open Px4.Device Px4.It930x

/-! ## Layouts -/

/-- One round of the loop in `mlt_stream_layout`. -/
def placeReceiver (layout : StreamLayout) (input : MltReceiverInput) (receiver : Nat) :
    StreamLayout :=
  let tag := input.portNumber + 1
  if tag > 5 then layout
  else
    { layout with
      tagToReceiver := layout.tagToReceiver.set (tag.toNat - 1) receiver
      tagCount := if layout.tagCount < tag.toNat then tag.toNat else layout.tagCount }

/-- `mlt_stream_layout`. -/
def mltStreamLayout (model : DeviceModel) : StreamLayout :=
  if model = .pxMlt5pe ∨ model = .dtv02a5tsP then kMlt5PeLayout
  else if model = .pxM1ur ∨ model = .pxS1ur ∨ model = .dtv03a1tu ∨ model = .dtv021t1sU ∨
      model = .dtv02a1t1sU then
    ⟨1, 1, (deviceProfile model).dualSystem, 1, [0, -1, -1, -1, -1], true⟩
  else
    let profile := mltModelLayout model
    (profile.receivers.take profile.receiverCount).zipIdx.foldl
      (fun layout (input, receiver) => placeReceiver layout input receiver)
      ⟨1, profile.receiverCount, true, 0, [-1, -1, -1, -1, -1], false⟩

/-- The layout checks of `create`, `create_w3u4`, `create_mlt_family` and
`create_single_receiver`, of which `px4d` calls the one for its enclosure. -/
def createLayout (model : DeviceModel) : Result StreamLayout :=
  match enclosure model with
  | .q3u4 => .ok kQ3U4Layout
  | .w3u4 => .ok kW3U4Layout
  | .mlt5pe =>
    if (mltModelLayout model).receiverCount = 0 ∨ (mltModelLayout model).receiverCount > 5 then
      .error .invalidArgument
    else .ok (mltStreamLayout model)
  | .singleReceiver =>
    if model ∈ [.pxM1ur, .pxS1ur, .dtv03a1tu, .dtv021t1sU, .dtv02a1t1sU] then
      .ok (mltStreamLayout model)
    else .error .invalidArgument

/-- `receiver_base` of a bridge. -/
def receiverBase (layout : StreamLayout) (bridge : Nat) : Nat := bridge * layout.receiversPerBridge

/-- `Bridge::demux` as the constructor makes it. -/
def newDemux (layout : StreamLayout) (alloc : Option (Nat → UInt8)) : Ts.TaggedTsDemux :=
  .new (UInt8.ofNat layout.tagCount) layout.plainTs alloc

/-! ## The callbacks -/

/-- A call on one session: `enqueue` of a packet, or `count_wire_tei`. -/
inductive Delivery
  | packet (receiver : Nat) (bytes : Packet)
  | wireTei (receiver : Nat)
  deriving DecidableEq

section
variable {σ : Type} (deliver : σ → Delivery → σ)

/-- `packet_sink`. -/
def packetSink (layout : StreamLayout) (base : Nat) : Ts.PacketSink σ :=
  fun context localReceiver packet =>
    if h : localReceiver < layout.tagCount ∧ packet.length = kPacketSize then
      let mapped := layout.tagToReceiver.getD localReceiver (-1)
      if mapped < 0 then (context, .ok ())
      else (deliver context (.packet (base + mapped.toNat) ⟨packet, h.2⟩), .ok ())
    else (context, .error .invalidArgument)

/-- `wire_tag_observer`. -/
def wireTagObserver (layout : StreamLayout) (base : Nat) : Ts.InvalidTagObserver σ :=
  fun context wireSync =>
    if wireSync &&& 0x80 = 0 then context
    else
      let wireTag := ((wireSync >>> 4) &&& 0x07).toNat
      if wireTag = 0 ∨ wireTag > layout.tagCount then context
      else
        let mapped := layout.tagToReceiver.getD (wireTag - 1) (-1)
        if mapped ≥ 0 then deliver context (.wireTei (base + mapped.toNat)) else context

end

/-! ## The sessions -/

/-- `sessions_`. -/
abbrev Sessions := Nat → Session

/-- What a delivery does to its session. -/
def Delivery.op : Delivery → Op
  | .packet _ bytes => .packet bytes
  | .wireTei _ => .wireTei

/-- The session of a delivery. -/
def Delivery.receiver : Delivery → Nat
  | .packet receiver _ | .wireTei receiver => receiver

/-- `enqueue` and `count_wire_tei` on the sessions. -/
def Sessions.deliver (cfg : Config) (sessions : Sessions) (delivery : Delivery) : Sessions :=
  Function.update sessions delivery.receiver
    (step cfg (sessions delivery.receiver) delivery.op)

end Px4.Stream
