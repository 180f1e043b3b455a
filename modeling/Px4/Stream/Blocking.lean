import Px4.Stream.Session
import Px4.Lib.Run

/-!
# Blocking reads

`read` gives up the session's mutex while it waits for a packet or a terminal state. Here it takes
two steps: the checks, after which it may wait, and the wake-up by a notification or the timeout,
followed by the copy. Between them every other operation of the session can run. Beside the session
stand the readers that wait and, for each queued packet, the attachment it was published under.
-/

namespace Px4.Stream

/-- A read that waits. -/
structure Waiter where
  attachment : TunerAttachment
  size : Nat
  deriving DecidableEq

/-- A session with its waiting readers and the owners of its queued packets, oldest first. -/
structure Shared where
  session : Session := {}
  owners : List TunerAttachment := []
  waiting : List Waiter := []

/-- The operations, with a blocking read in two steps. -/
inductive SharedOp
  | session (op : Op)
  | readStart (attachment : TunerAttachment) (output : OutputView)
  | wake (waiter : Nat)

/-- The owners after a step: a packet stored belongs to the attachment of the session, and packets
leave the ring from its front. -/
def ownersAfter (s s' : Session) (owners : List TunerAttachment) : List TunerAttachment :=
  if s'.queue.count = s.queue.count + 1 then owners ++ [s.binding.identity]
  else owners.drop (s.queue.count - s'.queue.count)

/-- The session after a step, with the owners following its ring. -/
def Shared.become (b : Shared) (session : Session) : Shared :=
  { b with session, owners := ownersAfter b.session session b.owners }

/-- `read` up to its wait: it fails, waits, or finds what it came for and copies at once. -/
def Shared.readStart (cfg : Config) (b : Shared) (attachment : TunerAttachment)
    (output : OutputView) : Shared :=
  match readCheck cfg attachment output b.session with
  | .error _ => b
  | .ok () =>
    if b.session.queue.count = 0 ∧ b.session.terminal = .none then
      { b with waiting := b.waiting ++ [⟨attachment, output.size⟩] }
    else b.become (readCopy output.size b.session).1

/-- The wait of a reader ends, and it copies. -/
def Shared.wake (b : Shared) (waiter : Nat) : Shared :=
  match b.waiting[waiter]? with
  | none => b
  | some w =>
    { b.become (readCopy w.size b.session).1 with waiting := b.waiting.eraseIdx waiter }

/-- One step. -/
def Shared.step (cfg : Config) (b : Shared) : SharedOp → Shared
  | .session op => b.become (Stream.step cfg b.session op)
  | .readStart attachment output => b.readStart cfg attachment output
  | .wake waiter => b.wake waiter

/-- What a read for `attachment` may do to the session: the packets it takes are its own, and it
ends no draining but its own. -/
def ReadIsolated (attachment : TunerAttachment) (b b' : Shared) : Prop :=
  (∀ owner ∈ b.owners.take (b.session.queue.count - b'.session.queue.count),
    owner = attachment) ∧
  (b.session.binding.draining = true → b'.session.binding.draining = false →
    b.session.binding.finalIdentity = attachment)

instance (attachment : TunerAttachment) (b b' : Shared) :
    Decidable (ReadIsolated attachment b b') := inferInstanceAs (Decidable (_ ∧ _))

/-- A step isolates attachments: whatever step of a read it is, the read keeps to its own. -/
def Isolated (cfg : Config) (b : Shared) (op : SharedOp) : Prop :=
  match op with
  | .session (.read attachment _) => ReadIsolated attachment b (b.step cfg op)
  | .readStart attachment _ => ReadIsolated attachment b (b.step cfg op)
  | .wake waiter =>
    ∀ w, b.waiting[waiter]? = some w → ReadIsolated w.attachment b (b.step cfg op)
  | _ => True

/-- When a wake-up isolates: the session still is the reader's, or there is nothing to take and no
draining to end. -/
def WakeCond (b : Shared) : SharedOp → Prop
  | .wake waiter => ∀ w, b.waiting[waiter]? = some w →
    sameAttachment b.session.binding.identity w.attachment = true ∨
      b.session.queue.count = 0 ∧
        (b.session.terminal = .none ∨ b.session.binding.draining = false)
  | _ => True

end Px4.Stream
