import Px4.Ts.Continuity
import Px4.Lib.Ring

/-!
# Stream sessions (`q3u4_stream.h`, `q3u4_stream.cpp`)

One receiver session of `Q3U4StreamDataPlane::Impl`: its packet ring, its attachment, the startup
gate and the integrity counters. Every function here is what the source does to the session under
its mutex; what `attach`, `detach` and `shutdown` do to the bridge is seen through its outcome
(`AttachEnv`, `stopped`). The ring's bytes are kept as packets, the unit of every copy; counters do
not wrap.
-/

namespace Px4.Stream

open Px4.Ts

/-! ## The data plane's configuration -/

/-- `ipc::System`. -/
inductive System
  | isdbT | isdbS | isdbTOrS
  deriving DecidableEq, Repr

/-- `StreamLayout`. -/
structure StreamLayout where
  bridgeCount : Nat
  receiversPerBridge : Nat
  dualSystem : Bool
  tagCount : Nat
  tagToReceiver : List Int
  plainTs : Bool := false
  deriving DecidableEq, Repr

/-- `kQ3U4Layout`. -/
def kQ3U4Layout : StreamLayout := ⟨2, 4, false, 4, [0, 1, 2, 3, -1], false⟩

/-- `kW3U4Layout`. -/
def kW3U4Layout : StreamLayout := ⟨1, 4, false, 4, [0, 1, 2, 3, -1], false⟩

/-- `kMlt5PeLayout`. -/
def kMlt5PeLayout : StreamLayout := ⟨1, 5, true, 5, [0, 1, 2, 3, 4], false⟩

/-- `valid_receiver`. -/
def validReceiver (layout : StreamLayout) (receiver : Nat) : Bool :=
  receiver < layout.bridgeCount * layout.receiversPerBridge

/-- `valid_system`. -/
def validSystem (layout : StreamLayout) (receiver : Nat) (system : System) : Bool :=
  if layout.dualSystem then system == .isdbT || system == .isdbS
  else if layout.plainTs then system == .isdbT
  else system == if receiver % layout.receiversPerBridge < 2 then .isdbS else .isdbT

/-- `StartupStabilizationPolicy`. -/
structure StartupStabilizationPolicy where
  minimumPackets : Nat := 16384
  cleanPackets : Nat := 4096
  maximumPackets : Nat := 131072
  deriving DecidableEq, Repr

/-- `StartupStabilizationPolicy::enabled`. -/
def StartupStabilizationPolicy.enabled (p : StartupStabilizationPolicy) : Bool :=
  p.minimumPackets != 0 || p.cleanPackets != 0 || p.maximumPackets != 0

/-- `kPacketSize`. -/
def kPacketSize : Nat := 188

/-- `kDefaultQueuePackets`. -/
def kDefaultQueuePackets : Nat := 65536

/-- `kMinQueuePackets`. -/
def kMinQueuePackets : Nat := 4096

/-- `kMaxQueuePackets`. -/
def kMaxQueuePackets : Nat := 262144

/-- `kMaxReadBytes`. -/
def kMaxReadBytes : Nat := kMaxStreamTransfer / kPacketSize * kPacketSize

/-- The fixed fields of `Impl`, as `create` accepts them. -/
structure Config where
  queuePackets : Nat
  stabilization : StartupStabilizationPolicy
  layout : StreamLayout
  queue_ok : kMinQueuePackets ≤ queuePackets ∧ queuePackets ≤ kMaxQueuePackets
  policy_ok : stabilization.enabled = true →
    0 < stabilization.minimumPackets ∧ 0 < stabilization.cleanPackets ∧
      stabilization.minimumPackets ≤ stabilization.maximumPackets ∧
      stabilization.cleanPackets ≤ stabilization.maximumPackets

/-- The checks of `Impl::create`. -/
def create (queuePackets : Nat) (stabilization : StartupStabilizationPolicy)
    (layout : StreamLayout) : Result Config :=
  if hq : kMinQueuePackets ≤ queuePackets ∧ queuePackets ≤ kMaxQueuePackets then
    if hp : stabilization.enabled = true →
        0 < stabilization.minimumPackets ∧ 0 < stabilization.cleanPackets ∧
          stabilization.minimumPackets ≤ stabilization.maximumPackets ∧
          stabilization.cleanPackets ≤ stabilization.maximumPackets then
      .ok ⟨queuePackets, stabilization, layout, hq, hp⟩
    else .error .invalidArgument
  else .error .invalidArgument

/-- The configuration of `Q3U4StreamDataPlane::create` with its default queue. -/
def q3u4Config : Config := ⟨kDefaultQueuePackets, {}, kQ3U4Layout, by decide, by decide⟩

/-! ## Packets, attachments, counters -/

/-- The packet argument of `enqueue`; `packet_sink` has checked its size. -/
structure Packet where
  bytes : List UInt8
  size_eq : bytes.length = kPacketSize
  deriving DecidableEq

/-- The transport error indicator, `packet.data[1] & 0x80`. -/
def Packet.tei (packet : Packet) : Bool := Continuity.byte packet.bytes 1 &&& 0x80 != 0

instance : Inhabited Packet := ⟨⟨List.replicate kPacketSize 0, List.length_replicate⟩⟩

/-- `TunerAttachment`. -/
structure TunerAttachment where
  ownerClientId : Nat := 0
  leaseId : Nat := 0
  attachmentId : Nat := 0
  receiver : Nat := 0
  system : System := .isdbT
  nonce : List UInt8 := []
  deriving DecidableEq, Repr

/-- `same_attachment`. -/
def sameAttachment (left right : TunerAttachment) : Bool :=
  left.ownerClientId == right.ownerClientId && left.leaseId == right.leaseId &&
    left.attachmentId == right.attachmentId && left.receiver == right.receiver &&
    left.system == right.system && left.nonce == right.nonce

/-- `StreamTerminal`. -/
inductive StreamTerminal
  | none | stopped | slowConsumer | usbError | disconnected | syncError | bridgeFatal
  deriving DecidableEq, Repr

/-- `terminal_for_error`. -/
def terminalForError (e : Error) : StreamTerminal :=
  if e = .disconnected then .disconnected else .usbError

/-- The terminal state the pump marks when `demux.push` fails. -/
def terminalForPush (e : Error) : StreamTerminal :=
  if e = .slowConsumer then .syncError else .bridgeFatal

/-- `StreamCounters`. -/
structure StreamCounters where
  packets : Nat := 0
  bytes : Nat := 0
  syncErrors : Nat := 0
  teiPackets : Nat := 0
  continuityErrors : Nat := 0
  queueDrops : Nat := 0
  usbErrors : Nat := 0
  emptyIntervals : Nat := 0
  deriving DecidableEq, Repr

/-- `TunerStreamFinalSnapshot`. -/
structure FinalSnapshot where
  counters : StreamCounters := {}
  terminal : StreamTerminal := .none
  deriving DecidableEq, Repr

/-- `StreamReadResult`, with the bytes written to the caller's buffer. -/
structure StreamReadResult where
  output : List UInt8 := []
  eof : Bool := false
  timeout : Bool := false
  terminal : StreamTerminal := .none
  deriving DecidableEq, Repr

/-- `MutableByteView`, without its contents. -/
structure OutputView where
  isNull : Bool
  size : Nat
  deriving DecidableEq, Repr

/-- `StartupContinuity`. -/
structure StartupContinuity where
  seen : Bool := false
  established : Bool := false
  counter : Nat := 0
  deriving DecidableEq, Repr

/-- `ContinuityObservation`. -/
inductive ContinuityObservation
  | boundary | clean | fault
  deriving DecidableEq, Repr

/-! ## The session -/

/-- The packet ring of `Impl::Session`; `packets` is null until the first attach. -/
structure Queue where
  packets : Option (Nat → Packet) := none
  capacity : Nat := 0
  head : Nat := 0
  count : Nat := 0

/-- The packets queued, oldest first. -/
def Queue.queued (q : Queue) : List Packet :=
  match q.packets with
  | some slots => Lib.Ring.contents slots q.capacity q.head q.count
  | none => []

/-- Store a packet behind the queued ones. -/
def Queue.push (q : Queue) (packet : Packet) : Queue :=
  let tail := (q.head + q.count) % q.capacity
  { q with packets := q.packets.map (Function.update · tail packet), count := q.count + 1 }

/-- Copy out `n` packets, up to the end of the ring and from its start, and move the head. -/
def Queue.pop (q : Queue) (n : Nat) : Queue × List Packet :=
  let first := q.head
  let firstCount := if n > q.capacity - first then q.capacity - first else n
  let output := match q.packets with
    | some slots => Lib.Ring.copy slots first firstCount ++ Lib.Ring.copy slots 0 (n - firstCount)
    | none => []
  ({ q with head := (q.head + n) % q.capacity, count := q.count - n }, output)

/-- The startup gate of `Impl::Session`. -/
structure Startup where
  checker : ContinuityChecker := {}
  continuity : Nat → StartupContinuity := fun _ => {}
  stabilizing : Bool := true
  stabilizationReady : Bool := false
  stabilizationBoundaryEstablished : Bool := false
  startupBudgetFallback : Bool := false
  startupContinuityEstablished : Bool := false
  startupPackets : Nat := 0
  startupCleanPackets : Nat := 0
  startupFaults : StreamCounters := {}

/-- The attachment of `Impl::Session` and its final snapshot. -/
structure Binding where
  attached : Bool := false
  draining : Bool := false
  identity : TunerAttachment := {}
  finalSnapshotValid : Bool := false
  finalIdentity : TunerAttachment := {}
  finalSnapshot : FinalSnapshot := {}

/-- `Impl::Session`. -/
structure Session where
  queue : Queue := {}
  binding : Binding := {}
  terminal : StreamTerminal := .none
  counters : StreamCounters := {}
  gate : Startup := {}

/-! ### Continuity and the startup gate -/

/-- `observe_continuity`. -/
def observeContinuity (packet : Packet) (g : Startup) : Startup × ContinuityObservation :=
  let (observation, checker) := g.checker.observe (some packet.bytes)
  let g := { g with checker }
  if observation.kind = .nullPacket ∨ observation.kind = .transportError ∨
      observation.kind = .invalidPacket then (g, .clean)
  else
    let state := g.continuity observation.pid
    let set (state : StartupContinuity) := Function.update g.continuity observation.pid state
    if observation.discontinuity then
      -- the marker's own counter is the baseline of the following payload packet
      ({ g with
        continuity := set ⟨true, true, observation.counter⟩
        startupContinuityEstablished := true }, .clean)
    else if state.established then
      (g, if observation.kind = .error then .fault else .clean)
    else if !observation.hasPayload then (g, .clean)
    else if !state.seen then
      ({ g with continuity := set { state with seen := true, counter := observation.counter } },
        .boundary)
    else
      let expected := (state.counter + 1) % 16
      if observation.counter ≠ expected then
        ({ g with continuity := set { state with counter := observation.counter } }, .boundary)
      else
        ({ g with
          continuity := set { state with counter := observation.counter, established := true }
          startupContinuityEstablished := true }, .clean)

/-- `publish_session_locked`. -/
def publishSession (g : Startup) : Startup :=
  { g with
    stabilizing := false
    stabilizationReady := false
    stabilizationBoundaryEstablished := true
    checker := g.checker.reset
    continuity := fun _ => {} }

/-- The startup budget is spent without the session being ready: the withheld faults are kept. -/
def fallBack (s : Session) : Session :=
  { s with
    counters := { s.counters with
      syncErrors := s.counters.syncErrors + s.gate.startupFaults.syncErrors
      teiPackets := s.counters.teiPackets + s.gate.startupFaults.teiPackets
      continuityErrors := s.counters.continuityErrors + s.gate.startupFaults.continuityErrors }
    gate := publishSession { s.gate with startupBudgetFallback := true } }

/-- The test of `finish_startup_packet_locked` for promotion. -/
def Startup.ready (policy : StartupStabilizationPolicy) (g : Startup) : Bool :=
  g.startupContinuityEstablished && decide (policy.minimumPackets ≤ g.startupPackets) &&
    decide (policy.cleanPackets ≤ g.startupCleanPackets)

/-- `finish_startup_packet_locked`. -/
def finishStartupPacket (policy : StartupStabilizationPolicy) (s : Session) : Session :=
  if !s.gate.stabilizing || s.terminal != .none then s
  else
    let ready := s.gate.ready policy
    let s := { s with gate := { s.gate with stabilizationReady := ready } }
    if s.gate.startupPackets < policy.maximumPackets || ready then s else fallBack s

/-- The session takes part in the stream: attached and not terminal. -/
def Session.live (s : Session) : Bool := s.binding.attached && s.terminal == .none

/-- A packet that startup counts as a transport error. -/
def Startup.countTei (g : Startup) : Startup :=
  { g with
    checker := g.checker.observeUntrustedPacket
    startupPackets := g.startupPackets + 1
    startupFaults := { g.startupFaults with teiPackets := g.startupFaults.teiPackets + 1 }
    startupCleanPackets := 0
    stabilizationReady := false }

/-- `count_wire_tei`. -/
def countWireTei (policy : StartupStabilizationPolicy) (s : Session) : Session :=
  if !s.live then s
  else if s.gate.stabilizing then finishStartupPacket policy { s with gate := s.gate.countTei }
  else
    { s with
      gate := { s.gate with checker := s.gate.checker.observeUntrustedPacket }
      counters := { s.counters with teiPackets := s.counters.teiPackets + 1 } }

/-- A packet without transport error during startup. -/
def Startup.countPacket (g : Startup) (packet : Packet) : Startup :=
  let (g, observation) :=
    observeContinuity packet { g with startupPackets := g.startupPackets + 1 }
  if observation = .fault then
    { g with
      startupFaults :=
        { g.startupFaults with continuityErrors := g.startupFaults.continuityErrors + 1 }
      startupCleanPackets := 0
      stabilizationReady := false }
  else { g with startupCleanPackets := g.startupCleanPackets + 1 }

/-- `enqueue` while the session is stabilizing. -/
def enqueueStartup (policy : StartupStabilizationPolicy) (packet : Packet) (s : Session) :
    Session :=
  if packet.tei then finishStartupPacket policy { s with gate := s.gate.countTei }
  else finishStartupPacket policy { s with gate := s.gate.countPacket packet }

/-- The end of `enqueue`: the packet is counted, then stored or dropped. -/
def publishPacket (packet : Packet) (s : Session) : Session :=
  let counters := { s.counters with
    packets := s.counters.packets + 1, bytes := s.counters.bytes + kPacketSize }
  if s.queue.count = s.queue.capacity then
    { s with
      counters := { counters with queueDrops := counters.queueDrops + 1 }
      terminal := .slowConsumer }
  else { s with counters, queue := s.queue.push packet }

/-- `enqueue` after startup. -/
def enqueuePublic (packet : Packet) (s : Session) : Session :=
  let (gate, observation) := observeContinuity packet s.gate
  let s := { s with
    gate
    counters := { s.counters with teiPackets := s.counters.teiPackets + packet.tei.toNat } }
  if observation = .boundary ∧ s.gate.startupBudgetFallback = false then s
  else
    publishPacket packet { s with
      counters := { s.counters with
        continuityErrors :=
          s.counters.continuityErrors + if observation = .fault then 1 else 0 } }

/-- `enqueue`. -/
def enqueue (policy : StartupStabilizationPolicy) (packet : Packet) (s : Session) : Session :=
  if !s.live then s
  else if s.gate.stabilizing then enqueueStartup policy packet s
  else enqueuePublic packet s

/-- `promote_ready_sessions`. -/
def promoteReady (s : Session) : Session :=
  if !s.live || !s.gate.stabilizing || !s.gate.stabilizationReady then s
  else { s with gate := publishSession s.gate }

/-- The loop body of `count_sync_deltas` for `losses` sync losses. -/
def countSyncLosses (losses : Nat) (publishedBefore : Bool) (s : Session) : Session :=
  if !s.live then s
  else if s.gate.stabilizing then
    { s with gate := { s.gate with
      startupFaults :=
        { s.gate.startupFaults with syncErrors := s.gate.startupFaults.syncErrors + losses }
      startupCleanPackets := 0
      stabilizationReady := false } }
  else if s.gate.stabilizationBoundaryEstablished || publishedBefore then
    { s with counters := { s.counters with syncErrors := s.counters.syncErrors + losses } }
  else s

/-- `count_sync_deltas`, at the end of a USB event. -/
def countSyncDeltas (losses : Nat) (publishedBefore : Bool) (s : Session) : Session :=
  promoteReady (if losses ≠ 0 then countSyncLosses losses publishedBefore s else s)

/-- `count_empty`. -/
def countEmpty (s : Session) : Session :=
  if s.live then
    { s with counters := { s.counters with emptyIntervals := s.counters.emptyIntervals + 1 } }
  else s

/-! ### Terminal states -/

/-- `mark_bridge_terminal`. -/
def markBridgeTerminal (reason : StreamTerminal) (s : Session) : Session :=
  if s.live then
    { s with
      counters := { s.counters with
        usbErrors := s.counters.usbErrors +
          if reason = .usbError ∨ reason = .disconnected then 1 else 0 }
      terminal := reason }
  else s

/-- `mark_all_terminal`; every caller passes `bridge_fatal`. -/
def markAllTerminal (s : Session) : Session :=
  if s.live then { s with terminal := .bridgeFatal } else s

/-! ### Attach, detach, read -/

/-- What `attach` meets outside the session: the bridge or the plane refuses, the ring can be
allocated, the bridge can be started. -/
structure AttachEnv where
  refused : Option Error
  allocated : Bool
  started : Result Unit
  deriving DecidableEq

/-- The lazy allocation of the ring. -/
def Queue.allocate (q : Queue) (queuePackets : Nat) (allocated : Bool) : Option Queue :=
  match q.packets with
  | some _ => some q
  | none =>
    if allocated then some { q with packets := some fun _ => default, capacity := queuePackets }
    else none

/-- The session block of `attach`. -/
def attachSession (cfg : Config) (attachment : TunerAttachment) (env : AttachEnv) (s : Session) :
    Result Session :=
  if attachment.ownerClientId = 0 ∨ attachment.leaseId = 0 ∨ attachment.attachmentId = 0 ∨
      validReceiver cfg.layout attachment.receiver = false then .error .invalidArgument
  else if validSystem cfg.layout attachment.receiver attachment.system = false then
    .error .invalidArgument
  else match env.refused with
    | some e => .error e
    | none =>
      if s.binding.attached || s.binding.draining then .error .busy
      else match s.queue.allocate cfg.queuePackets env.allocated with
        | none => .error .internal
        | some queue =>
          .ok {
            queue := { queue with head := 0, count := 0 }
            binding := { attached := true, identity := attachment }
            gate := {
              checker := s.gate.checker.reset
              stabilizing := cfg.stabilization.enabled } }

/-- `attach`. A bridge that does not start leaves the session stopped. -/
def attach (cfg : Config) (attachment : TunerAttachment) (env : AttachEnv) (s : Session) :
    Session × Result Unit :=
  match attachSession cfg attachment env s with
  | .error e => (s, .error e)
  | .ok s => match env.started with
    | .ok () => (s, .ok ())
    | .error e =>
      ({ s with
        binding := { s.binding with attached := false }
        terminal := .stopped
        queue := { s.queue with count := 0 } }, .error e)

/-- The terminal state of a session that ends. -/
def finalTerminal (terminal : StreamTerminal) : StreamTerminal :=
  if terminal = .none then .stopped else terminal

/-- `detach`; `stopped` is the outcome of stopping the bridge. -/
def detach (cfg : Config) (attachment : TunerAttachment) (stopped : Result Unit) (s : Session) :
    Session × Result Unit :=
  if validReceiver cfg.layout attachment.receiver = false then (s, .error .notFound)
  else if !s.binding.attached || !sameAttachment s.binding.identity attachment then
    (s, .error .notFound)
  else
    let terminal := match stopped with
      | .ok () => finalTerminal s.terminal
      | .error _ => .bridgeFatal
    ({ s with
      binding := {
        attached := false
        draining := true
        identity := s.binding.identity
        finalSnapshotValid := true
        finalIdentity := s.binding.identity
        finalSnapshot := { counters := s.counters, terminal } }
      terminal := finalTerminal s.terminal }, stopped)

/-- The checks of `read` before it may wait. -/
def readCheck (cfg : Config) (attachment : TunerAttachment) (output : OutputView) (s : Session) :
    Result Unit :=
  if validReceiver cfg.layout attachment.receiver = false ∨
      (output.size ≠ 0 ∧ output.isNull = true) ∨ output.size = 0 ∨
      output.size % kPacketSize ≠ 0 ∨ output.size > kMaxReadBytes then .error .invalidArgument
  else if (s.binding.attached && sameAttachment s.binding.identity attachment) ||
      (s.binding.draining && sameAttachment s.binding.finalIdentity attachment) then .ok ()
  else .error .notFound

/-- `read` after the wait: end of stream, nothing yet, or the copy. -/
def readCopy (size : Nat) (s : Session) : Session × StreamReadResult :=
  if s.queue.count = 0 then
    if s.terminal ≠ .none then
      ({ s with binding := { s.binding with draining := false } },
        { eof := true, terminal := s.terminal })
    else (s, { timeout := true })
  else
    let packets := size / kPacketSize
    let packets := if packets > s.queue.count then s.queue.count else packets
    let (queue, output) := s.queue.pop packets
    ({ s with queue }, { output := output.flatMap Packet.bytes })

/-- `read` as one step: the wait, if there is one, ends with the session as it began. -/
def read (cfg : Config) (attachment : TunerAttachment) (output : OutputView) (s : Session) :
    Session × Result StreamReadResult :=
  match readCheck cfg attachment output s with
  | .error e => (s, .error e)
  | .ok () => ((readCopy output.size s).1, .ok (readCopy output.size s).2)

/-- `stats`. -/
def stats (cfg : Config) (attachment : TunerAttachment) (s : Session) : Result StreamCounters :=
  if validReceiver cfg.layout attachment.receiver = false ∨ s.binding.attached = false ∨
      sameAttachment s.binding.identity attachment = false then .error .notFound
  else .ok s.counters

/-- `final_snapshot`. -/
def finalSnapshot (cfg : Config) (attachment : TunerAttachment) (s : Session) :
    Result FinalSnapshot :=
  if validReceiver cfg.layout attachment.receiver = false ∨
      s.binding.finalSnapshotValid = false ∨
      sameAttachment s.binding.finalIdentity attachment = false then .error .notFound
  else .ok s.binding.finalSnapshot

/-- `release_final`. -/
def releaseFinal (cfg : Config) (attachment : TunerAttachment) (s : Session) :
    Session × Result Unit :=
  if validReceiver cfg.layout attachment.receiver = false ∨
      s.binding.finalSnapshotValid = false ∨
      sameAttachment s.binding.finalIdentity attachment = false then (s, .error .notFound)
  else
    ({ s with
      binding := { s.binding with draining := false }
      queue := { s.queue with count := 0 } }, .ok ())

/-- `shutdown` ends an attached session. -/
def endSession (s : Session) : Session :=
  if s.binding.attached then
    { s with
      binding := {
        attached := false
        draining := false
        identity := s.binding.identity
        finalSnapshotValid := true
        finalIdentity := s.binding.identity
        finalSnapshot := { counters := s.counters, terminal := finalTerminal s.terminal } }
      terminal := finalTerminal s.terminal
      queue := { s.queue with count := 0 } }
  else s

/-- `shutdown` exposes a bridge that could not be stopped. -/
def failSnapshot (s : Session) : Session :=
  if s.binding.finalSnapshotValid then
    { s with binding := { s.binding with
      finalSnapshot := { s.binding.finalSnapshot with terminal := .bridgeFatal } } }
  else s

/-- `shutdown` for one session; `stopped` is the outcome of stopping its bridge. -/
def shutdown (stopped : Result Unit) (s : Session) : Session :=
  match stopped with
  | .ok () => endSession s
  | .error _ => failSnapshot (endSession s)

/-! ### Steps -/

/-- What can happen to a session. -/
inductive Op
  | attach (attachment : TunerAttachment) (env : AttachEnv)
  | detach (attachment : TunerAttachment) (stopped : Result Unit)
  | read (attachment : TunerAttachment) (output : OutputView)
  | releaseFinal (attachment : TunerAttachment)
  | shutdown (stopped : Result Unit)
  | packet (packet : Packet)
  | wireTei
  | eventEnd (losses : Nat) (publishedBefore : Bool)
  | empty
  | waitFailed (e : Error)
  | pushFailed (e : Error)
  | enclosureFatal

/-- One operation on a session. -/
def step (cfg : Config) (s : Session) : Op → Session
  | .attach attachment env => (attach cfg attachment env s).1
  | .detach attachment stopped => (detach cfg attachment stopped s).1
  | .read attachment output => (read cfg attachment output s).1
  | .releaseFinal attachment => (releaseFinal cfg attachment s).1
  | .shutdown stopped => shutdown stopped s
  | .packet packet => enqueue cfg.stabilization packet s
  | .wireTei => countWireTei cfg.stabilization s
  | .eventEnd losses publishedBefore => countSyncDeltas losses publishedBefore s
  | .empty => countEmpty s
  | .waitFailed e => markBridgeTerminal (terminalForError e) s
  | .pushFailed e => markBridgeTerminal (terminalForPush e) s
  | .enclosureFatal => markAllTerminal s

/-! ### Inputs of concrete runs -/

/-- Two attachments of one receiver. -/
def firstClient : TunerAttachment := ⟨1, 1, 1, 0, .isdbS, []⟩

@[inherit_doc firstClient]
def secondClient : TunerAttachment := ⟨2, 2, 2, 0, .isdbS, []⟩

/-- Everything outside the session succeeds. -/
def calmEnv : AttachEnv := ⟨none, true, .ok ()⟩

/-- A packet of the given header, with zero bytes after it. -/
def headerPacket (b1 b2 b3 b4 b5 : UInt8) : Packet where
  bytes := [0x47, b1, b2, b3, b4, b5] ++ List.replicate 182 0
  size_eq := by rw [List.length_append, List.length_replicate]; rfl

/-- A packet of PID 0 with the discontinuity indicator. -/
def markerPacket : Packet := headerPacket 0 0 0x30 1 0x80

/-- A null packet. -/
def nullPacket : Packet := headerPacket 0x1f 0xff 0x10 0 0

/-- A configuration whose gate opens after one clean packet. -/
def promptConfig : Config := ⟨4096, ⟨1, 1, 1⟩, kQ3U4Layout, by decide, by decide⟩

end Px4.Stream
