import Mathlib.Data.Nat.Count
import Px4.Lib.Run
import Px4.Usb.Stream

/-!
# The order in which a stream delivers

The callback, `start_stream` and `wait_stream` with a record of what came of each submission
(`Traced`): the event or the error that its callback found, or the error of the submission itself.
A `Reader` is the thread that calls `wait_stream`, with what was returned to it; between its calls,
and while it waits for events, libusb calls back.
-/

namespace Px4.Usb

namespace StreamState

variable (st : StreamState)

/-- What came of a slot's transfer. -/
def outcome (slot : Slot) : Result StreamEvent :=
  match slot.error with
  | some e => .error e
  | none => .ok (st.event slot.buffer slot.actualLength)

/-- The slot of a callback, with the outcome of its transfer. -/
def finished (index transfer : Nat) (status : TransferStatus) (actualLength : Int) : Slot :=
  (st.slots index).finish ((st.slots index).transfer == some transfer && st.outstanding != 0)
    st.stopping st.transferSize status actualLength

/-- `on_transfer` of a submitted slot up to its own submission, with the ready block that it takes
for that. -/
def complete (index transfer : Nat) (status : TransferStatus) (actualLength : Int) :
    StreamState × Option Nat :=
  let slot := st.finished index transfer status actualLength
  let st := { st with outstanding := st.outstanding - 1 }
  if st.stopping then (st.setSlot index { slot with status := .allocated }, none)
  else
    let st := st.setSlot index { slot with status := .completed }
    if slot.error.isSome then ({ st with resubmitFailed := true }, none)
    else (st, if st.resubmitFailed then none else st.freeReady)

end StreamState

/-! ## Outcomes -/

/-- A stream with what has come of each submission. -/
structure Traced where
  st : StreamState
  outcomes : Nat → Option (Result StreamEvent) := fun _ => none

namespace Traced

variable (t : Traced)

def setState (st : StreamState) : Traced := { t with st }

def record (order : Nat) (outcome : Result StreamEvent) : Traced :=
  { t with outcomes := Function.update t.outcomes order (some outcome) }

/-- A submission that libusb accepts. -/
def submit (inner : Traced → Traced) (index : Nat) : Traced :=
  inner (t.setState (t.st.markSubmitted index))

/-- The submission from inside the callback. -/
def replenish (code : Int) (inner : Traced → Traced) (index : Nat) : Traced :=
  if code = 0 then t.submit inner index
  else (t.setState (t.st.replenish code id index)).record t.st.nextSubmissionOrder
    (.error (mapLibusbError code))

/-- `on_transfer`. -/
def onTransfer (code : Int) (inner : Traced → Traced) (index transfer : Nat)
    (status : TransferStatus) (actualLength : Int) : Traced :=
  if (t.st.slots index).status ≠ .submitted then t
  else
    let slot := t.st.finished index transfer status actualLength
    let traced := t.record slot.submissionOrder (t.st.outcome slot)
    match t.st.complete index transfer status actualLength with
    | (st, none) => traced.setState st
    | (st, some block) => (traced.setState (st.handOver index block)).replenish code inner index

/-- The callbacks from inside a call. -/
def dispatch : Dispatch → Traced → Traced
  | .done, t => t
  | .callback index transfer status actualLength code inner rest, t =>
    dispatch rest (t.onTransfer code (dispatch inner) index transfer status actualLength)

/-- A callback while libusb handles events. -/
def callback (c : Completion) : Traced :=
  t.onTransfer c.submit.code (dispatch c.submit.inner) c.index c.transfer c.status c.actualLength

/-- What `wait_stream` does first. -/
def release (submit : Submit) : Traced × Option Error :=
  match t.st.delivered with
  | none => (t.setState t.st.releaseReady, none)
  | some index =>
    if (t.st.slots index).status ≠ .completed then (t, some .internal)
    else if submit.code = 0 then
      let t := t.submit (dispatch submit.inner) index
      (t.setState { t.st with delivered := none }.releaseReady, none)
    else
      let error := mapLibusbError submit.code
      ((t.setState (t.st.release submit).1).record t.st.nextSubmissionOrder
        (.error error), some error)

/-- The submissions of `start_stream`. -/
def startSlots (env : StartEnv) (t : Traced) : List Nat → Traced × Option Error
  | [] => (t, none)
  | index :: rest =>
    let t := t.setState (t.st.setTransfer index (env.transfer index))
    if env.bufferAllocated index = false ∨ env.transfer index = none then (t, some .internal)
    else
      let submit := env.submit index
      if submit.code ≠ 0 then
        let st := t.st.submitSlot submit.code id index
        (t.setState (st.setSlot index { st.slots index with status := .allocated }),
          some (mapLibusbError submit.code))
      else startSlots env (t.submit (dispatch submit.inner) index) rest

end Traced

/-! ## The caller of `wait_stream` -/

/-- What `wait_stream` has returned: the completion whose turn it was, or the error of a submission
of its own. -/
inductive Return
  | turn (order : Nat) (result : Result StreamEvent)
  | resubmit (order : Nat) (error : Error)
  deriving DecidableEq

/-- The caller of `wait_stream`: whether it waits for events inside the call, the event that was
returned last, and everything that was returned. -/
structure Reader where
  traced : Traced
  waiting : Bool := false
  held : Option StreamEvent := none
  returned : List Return := []

namespace Reader

variable (r : Reader)

/-- A call of `completed`. -/
def take : Reader × Result StreamEvent :=
  match r.traced.st.completed with
  | (st, result) =>
    ({ r with
      traced := r.traced.setState st
      held := result.toOption
      returned := if result = .error .notFound then r.returned
        else r.returned ++ [.turn r.traced.st.nextDeliveryOrder result] }, result)

/-- `wait_stream` up to its event call. -/
def wait (submit : Submit) : Reader × Option (Result StreamEvent) :=
  match r.traced.release submit with
  | (traced, some e) =>
    ({ r with
      traced, held := none
      returned := r.returned ++ [.resubmit r.traced.st.nextSubmissionOrder e] }, some (.error e))
  | (traced, none) =>
    match { r with traced, held := none }.take with
    | (r, result) =>
      if result = .error .notFound then ({ r with waiting := true }, none) else (r, some result)

/-- `wait_stream` after its event call. -/
def resume (eventResult : Int) : Reader × Result StreamEvent :=
  if eventResult ≠ 0 then ({ r with waiting := false }, .error (mapLibusbError eventResult))
  else
    match { r with waiting := false }.take with
    | (r, result) => (r, if result = .error .notFound then .error .timeout else result)

/-- What can happen. -/
inductive Act
  | callback (c : Completion)
  | wait (submit : Submit)
  | resume (eventResult : Int)

def step : Act → Reader
  | .callback c => { r with traced := r.traced.callback c }
  | .wait submit => if r.waiting then r else (r.wait submit).1
  | .resume eventResult => if r.waiting then (r.resume eventResult).1 else r

/-- A stream that `start_stream` has started, or the error. -/
def start (base count : Nat) (env : StartEnv) : Reader × Option Error :=
  match Traced.startSlots env ⟨.create base count env, fun _ => none⟩ (List.range count) with
  | (traced, error) => ({ traced }, error)

/-! ## What is owed -/

/-- The turn of a return. -/
def turn? : Return → Option (Nat × Result StreamEvent)
  | .turn order result => some (order, result)
  | .resubmit _ _ => none

/-- The turns that `wait_stream` has returned, in order. -/
def turns : List (Nat × Result StreamEvent) := r.returned.filterMap turn?

end Reader

namespace StreamState

variable (st : StreamState) (k : Nat)

/-- The submitted slots with the submission number `k`. -/
def submittedAt : Nat :=
  Nat.count (fun i => (st.slots i).status = .submitted ∧ (st.slots i).submissionOrder = k) st.count

/-- The completed slots with the number `k` that wait for their turn. -/
def waitingAt : Nat :=
  Nat.count (fun i => (st.slots i).status = .completed ∧ (st.slots i).submissionOrder = k ∧
    st.nextDeliveryOrder ≤ k) st.count

/-- The ready blocks with the number `k` that wait for their turn. -/
def readyAt : Nat :=
  Nat.count (fun i => (st.ready i).ready = true ∧ (st.ready i).submissionOrder = k ∧
    st.nextDeliveryOrder ≤ k) st.count

/-- The deferred error has the number `k`. -/
def deferredAt : Nat := if st.deferredErrorValid = true ∧ st.deferredErrorOrder = k then 1 else 0

/-- A block that has completed without an error waits for its turn. -/
def dataWaiting : Bool :=
  (List.range st.count).any fun i =>
    ((st.slots i).status == .completed && (st.slots i).error.isNone &&
      decide (st.nextDeliveryOrder ≤ (st.slots i).submissionOrder)) ||
    ((st.ready i).ready && decide (st.nextDeliveryOrder ≤ (st.ready i).submissionOrder))

end StreamState

namespace Reader

variable (r : Reader)

/-- The number of places that hold the submission number `k`; the last is what was delivered. -/
def places (k : Nat) : Nat :=
  r.traced.st.submittedAt k + r.traced.st.waitingAt k + r.traced.st.readyAt k +
    r.traced.st.deferredAt k + r.turns.countP fun turn => turn.1 = k

/-- **Delivery in order, exactly once**: every submission number is in one place; the turns that
were returned have the numbers from 0 on; at the turn of a submission is returned what came of it;
and libusb does not have the buffer that was returned last. -/
structure ExactlyOnce : Prop where
  onePlace : ∀ k < r.traced.st.nextSubmissionOrder, r.places k = 1
  consecutive : r.turns.map (·.1) = List.range r.traced.st.nextDeliveryOrder
  outcome : ∀ k < r.traced.st.nextDeliveryOrder, ∀ result,
    r.traced.outcomes k = some result ↔ (k, result) ∈ r.turns
  intact : ∀ event, r.held = some event → ∀ i, (r.traced.st.slots i).status = .submitted →
    (r.traced.st.slots i).buffer ≠ event.buffer

/-- A return that reports the failure of a submission. -/
def fails : Return → Option Nat
  | .turn order (.error _) => some order
  | .turn _ (.ok _) => none
  | .resubmit order _ => some order

/-- An error that the step returns overtakes no data: every block with a smaller number that has
completed without an error was returned before. -/
def NotOvertaken (act : Act) : Prop :=
  ∀ result order, (r.step act).returned = r.returned ++ [result] → fails result = some order →
    ∀ k < order, ∀ event, (r.step act).traced.outcomes k = some (.ok event) →
      .turn k (.ok event) ∈ r.returned

/-- When a step lets no error overtake: `wait_stream` does not fail to submit a slot again while a
block that has completed without an error waits for its turn. -/
def SubmitCond : Act → Prop
  | .wait submit => r.waiting = false → r.traced.st.delivered.isSome = true → submit.code ≠ 0 →
    r.traced.st.dataWaiting = false
  | _ => True

instance : (act : Act) → Decidable (r.SubmitCond act)
  | .wait _ => inferInstanceAs (Decidable (_ → _))
  | .callback _ | .resume _ => isTrue trivial

end Reader

/-- No submission fails with `LIBUSB_ERROR_NOT_FOUND`. -/
def Dispatch.found : Dispatch → Prop
  | .done => True
  | .callback _ _ _ _ code inner rest => code ≠ kErrorNotFound ∧ inner.found ∧ rest.found

@[inherit_doc Dispatch.found]
def Submit.found (submit : Submit) : Prop := submit.code ≠ kErrorNotFound ∧ submit.inner.found

end Px4.Usb
