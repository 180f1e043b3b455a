import Px4.Stream.Session
import Px4.Lib.Run

/-!
# What a session sees of its stream

`StartupLog` keeps beside a session what the pump has delivered to it since the last attach, counted
from the packets, marks and sync losses themselves and not from the gate's own fields: the packets
seen while the session was stabilizing, the packets since the last fault, the packets of the present
USB event, and the faults. Only an attached session that is not terminal sees anything.
-/

namespace Px4.Stream

/-- Faults by kind. -/
structure Faults where
  tei : Nat := 0
  continuity : Nat := 0
  sync : Nat := 0
  deriving DecidableEq, Repr

instance : Add Faults := ⟨fun a b => ⟨a.tei + b.tei, a.continuity + b.continuity, a.sync + b.sync⟩⟩

/-- The faults a session's counters show. -/
def StreamCounters.faults (c : StreamCounters) : Faults :=
  ⟨c.teiPackets, c.continuityErrors, c.syncErrors⟩

/-- The faults a session observes in an operation: a packet with its transport error indicator or a
wire mark, a packet that breaks the continuity of its PID, the sync losses of a USB event. -/
def observedFaults (s : Session) (op : Op) : Faults :=
  if !s.live then {}
  else match op with
    | .packet packet =>
      if packet.tei then { tei := 1 }
      else if (observeContinuity packet s.gate).2 = .fault then { continuity := 1 }
      else {}
    | .wireTei => { tei := 1 }
    | .eventEnd losses _ => { sync := losses }
    | _ => {}

/-- A session and what it has seen since its last attach. -/
structure StartupLog where
  session : Session := {}
  /-- packets seen while stabilizing, all of them withheld -/
  withheld : Nat := 0
  /-- packets since the last fault -/
  sinceFault : Nat := 0
  /-- packets of the present USB event -/
  inEvent : Nat := 0
  /-- the withheld packets have reached the maximum in the present USB event -/
  reaching : Bool := false
  /-- packets of the USB event in which the maximum was reached -/
  reachedIn : Nat := 0
  /-- faults since the attach -/
  faults : Faults := {}
  /-- faults since the session left stabilization -/
  faultsAfter : Faults := {}

/-- A packet or a wire mark, with or without a fault. -/
def StartupLog.packet (l : StartupLog) (maximum : Nat) (fault : Bool) : StartupLog :=
  let withheld := if l.session.gate.stabilizing then l.withheld + 1 else l.withheld
  let reaching := l.reaching || l.session.gate.stabilizing && withheld == maximum
  { l with
    withheld
    sinceFault := if fault then 0 else l.sinceFault + 1
    inEvent := l.inEvent + 1
    reaching
    reachedIn := if reaching then l.inEvent + 1 else l.reachedIn }

/-- The end of a USB event. -/
def StartupLog.endEvent (l : StartupLog) (losses : Nat) : StartupLog :=
  { l with
    sinceFault := if losses ≠ 0 then 0 else l.sinceFault
    inEvent := 0
    reaching := false }

/-- What a live session sees of an operation. -/
def StartupLog.see (l : StartupLog) (maximum : Nat) (op : Op) : StartupLog :=
  if !l.session.live then l
  else match op with
    | .packet _ | .wireTei => l.packet maximum (observedFaults l.session op != {})
    | .eventEnd losses _ => l.endEvent losses
    | _ => l

/-- One operation. An attach that reaches the session block starts a new log. -/
def StartupLog.step (cfg : Config) (l : StartupLog) (op : Op) : StartupLog :=
  let session := Stream.step cfg l.session op
  let seen : StartupLog :=
    { l.see cfg.stabilization.maximumPackets op with
      session
      faults := l.faults + observedFaults l.session op
      faultsAfter :=
        if l.session.gate.stabilizing then {} else l.faultsAfter + observedFaults l.session op }
  match op with
  | .attach attachment env =>
    match attachSession cfg attachment env l.session with
    | .ok _ => { session }
    | .error _ => seen
  | _ => seen

/-- A run from the first state of a session. -/
def StartupLog.run (cfg : Config) (ops : List Op) : StartupLog :=
  ops.foldl (StartupLog.step cfg) {}

/-- The conditions for promotion: enough packets, enough of them since the last fault, and
continuity established. -/
def StartupLog.Ready (policy : StartupStabilizationPolicy) (l : StartupLog) : Prop :=
  policy.minimumPackets ≤ l.withheld ∧ policy.cleanPackets ≤ l.sinceFault ∧
    l.session.gate.startupContinuityEstablished = true

/-- A packet or a wire mark. -/
def Op.isPacket : Op → Bool
  | .packet _ | .wireTei => true
  | _ => false

/-- What the startup gate owes at a step of a session with this log. -/
structure GateStep (cfg : Config) (l : StartupLog) (op : Op) : Prop where
  /-- while stabilizing, no packet enters the ring -/
  withheld : l.session.gate.stabilizing = true →
    l.session.queue.count = 0 ∧ (l.step cfg op).session.queue.count = 0
  /-- promotion is at the end of a USB event without sync losses, and only of a ready session -/
  promoted : l.session.gate.stabilizing = true →
    (l.step cfg op).session.gate.stabilizing = false →
    (l.step cfg op).session.gate.startupBudgetFallback = false →
      (∃ publishedBefore, op = .eventEnd 0 publishedBefore) ∧ l.Ready cfg.stabilization
  /-- fallback is at a packet -/
  fallback : l.session.gate.stabilizing = true →
    (l.step cfg op).session.gate.startupBudgetFallback = true → op.isPacket = true
  /-- a packet makes the session fall back exactly when the count of packets is at the maximum or
  beyond without the session being ready -/
  atPacket : l.session.live = true → l.session.gate.stabilizing = true → op.isPacket = true →
    ((l.step cfg op).session.gate.startupBudgetFallback = true ↔
      cfg.stabilization.maximumPackets ≤ (l.step cfg op).withheld ∧
        ¬(l.step cfg op).Ready cfg.stabilization) ∧
    ((l.step cfg op).session.gate.stabilizing = false ↔
      (l.step cfg op).session.gate.startupBudgetFallback = true)
  /-- the end of a USB event promotes a session that is ready after its sync losses -/
  atEventEnd : l.session.live = true → l.session.gate.stabilizing = true →
    ∀ losses publishedBefore, op = .eventEnd losses publishedBefore →
      ((l.step cfg op).session.gate.stabilizing = false ↔
        losses = 0 ∧ l.Ready cfg.stabilization)
  /-- only an attach makes a session stabilize again -/
  final : l.session.gate.stabilizing = false →
    (l.step cfg op).session.gate.stabilizing = true → ∃ attachment env, op = .attach attachment env
  /-- the withheld packets are bounded -/
  bounded : (l.step cfg op).withheld ≤
    cfg.stabilization.maximumPackets + (l.step cfg op).reachedIn + 1

end Px4.Stream
