import Px4.Core
import Mathlib.Logic.Function.Basic

/-!
# The USB stream of a transport (`libusb_transport.cpp`)

`LibusbTransport::StreamState` and the functions that work on it under `stream_gate_`: the transfer
callback, `start_stream`, `wait_stream`, `cancel_stream` and `stop_stream`. A function that gives
the gate up while libusb handles events is cut there: `waitEnter` and `waitResume` for
`wait_stream`, `drainCheck` for the loop of `cancel_and_drain_locked`.

libusb is seen through what it returns and when it calls back. A callback may come from inside
`submit_transfer`, on the same thread, and may itself submit (`Dispatch`); a failed submission calls
nothing back. A buffer is a name, unique over the transport's life.
-/

namespace Px4.Usb

/-! ## libusb -/

/-- `LibusbApi::TransferStatus`. -/
inductive TransferStatus
  | completed | error | timedOut | cancelled | stall | noDevice | overflow
  deriving DecidableEq, Repr

/-- `LIBUSB_ERROR_NOT_FOUND`. -/
def kErrorNotFound : Int := -5

/-- `map_libusb_error` of a result other than 0. -/
def mapLibusbError (code : Int) : Error :=
  if code = -7 then .timeout
  else if code = -4 then .disconnected
  else if code = -6 then .busy
  else if code = kErrorNotFound then .notFound
  else if code = -12 then .unsupported
  else if code = -2 then .invalidArgument
  else if code = -11 then .internal
  else .usbIo

/-- The callbacks that libusb makes from inside a call, in order. Each has the result of the
submission it may make, and the callbacks from inside that. -/
inductive Dispatch
  | done
  | callback (index transfer : Nat) (status : TransferStatus) (actualLength : Int) (code : Int)
      (inner rest : Dispatch)

/-- What `submit_transfer` does. -/
structure Submit where
  code : Int := 0
  inner : Dispatch := .done

/-! ## The stream state -/

/-- `StreamState::SlotStatus`. -/
inductive SlotStatus
  | allocated | submitted | completed
  deriving DecidableEq, Repr

/-- `StreamState::ReadyBlock`. -/
structure ReadyBlock where
  buffer : Nat := 0
  ready : Bool := false
  error : Option Error := none
  actualLength : Nat := 0
  submissionOrder : Nat := 0
  deriving DecidableEq, Repr

/-- `StreamState::Slot`. -/
structure Slot where
  transfer : Option Nat := none
  buffer : Nat := 0
  status : SlotStatus := .allocated
  error : Option Error := none
  actualLength : Nat := 0
  submissionOrder : Nat := 0
  deriving DecidableEq, Repr

/-- `StreamState`. -/
structure StreamState where
  slots : Nat → Slot := fun _ => {}
  ready : Nat → ReadyBlock := fun _ => {}
  count : Nat := 0
  transferSize : Nat := 0
  outstanding : Nat := 0
  delivered : Option Nat := none
  deliveredReady : Option Nat := none
  nextSubmissionOrder : Nat := 0
  nextDeliveryOrder : Nat := 0
  deferredErrorValid : Bool := false
  deferredError : Error := .internal
  deferredErrorOrder : Nat := 0
  resubmitFailed : Bool := false
  stopping : Bool := false
  rawIoEnabled : Bool := false

/-- `StreamEventKind`. -/
inductive StreamEventKind
  | data | shortTransfer
  deriving DecidableEq, Repr

/-- `StreamEvent`; `data` points into `buffer`. -/
structure StreamEvent where
  kind : StreamEventKind
  buffer : Nat
  size : Nat
  deriving DecidableEq, Repr

namespace StreamState

variable (st : StreamState)

def setSlot (index : Nat) (slot : Slot) : StreamState :=
  { st with slots := Function.update st.slots index slot }

def setReady (index : Nat) (ready : ReadyBlock) : StreamState :=
  { st with ready := Function.update st.ready index ready }

/-- A slot is marked submitted before libusb sees it. -/
def markSubmitted (index : Nat) : StreamState :=
  { st.setSlot index { st.slots index with
      status := .submitted, submissionOrder := st.nextSubmissionOrder } with
    nextSubmissionOrder := st.nextSubmissionOrder + 1
    outstanding := st.outstanding + 1 }

/-- A slot is marked and submitted; `inner` is what libusb does inside the call. -/
def submitSlot (code : Int) (inner : StreamState → StreamState) (index : Nat) : StreamState :=
  let st := st.markSubmitted index
  if code = 0 then inner st else { st with outstanding := st.outstanding - 1 }

/-- The first ready block that a completion may be put into. -/
def freeReady : Option Nat :=
  (List.range st.count).find? fun index =>
    !(st.ready index).ready && st.deliveredReady != some index

/-- A completion is put into a ready block and the slot takes over its buffer. -/
def handOver (index block : Nat) : StreamState :=
  let slot := st.slots index
  (st.setReady block {
    buffer := slot.buffer
    ready := true
    error := slot.error
    actualLength := slot.actualLength
    submissionOrder := slot.submissionOrder }).setSlot index
      { slot with buffer := (st.ready block).buffer }

/-- The submission from inside the callback. -/
def replenish (code : Int) (inner : StreamState → StreamState) (index : Nat) : StreamState :=
  let st := st.submitSlot code inner index
  if code = 0 then st
  else
    { st.setSlot index { st.slots index with status := .allocated } with
      resubmitFailed := true
      deferredErrorValid := true
      deferredError := mapLibusbError code
      deferredErrorOrder := (st.slots index).submissionOrder }

end StreamState

/-- A slot with the outcome of its transfer. -/
def Slot.finish (slot : Slot) (genuine stopping : Bool) (transferSize : Nat)
    (status : TransferStatus) (actualLength : Int) : Slot :=
  if !genuine then { slot with error := some .internal }
  else match status with
    | .completed =>
      if actualLength < 0 ∨ actualLength > transferSize then { slot with error := some .internal }
      else { slot with error := none, actualLength := actualLength.toNat }
    | .timedOut => { slot with error := some .timeout }
    | .noDevice => { slot with error := some .disconnected }
    | .cancelled => { slot with error := if stopping then none else some .usbIo }
    | _ => { slot with error := some .usbIo }

/-- `on_transfer`; `code` and `inner` are what libusb does when the callback submits. -/
def onTransfer (code : Int) (inner : StreamState → StreamState) (index transfer : Nat)
    (status : TransferStatus) (actualLength : Int) (st : StreamState) : StreamState :=
  let slot := st.slots index
  if slot.status ≠ .submitted then st
  else
    let genuine := slot.transfer == some transfer && st.outstanding != 0
    let slot := slot.finish genuine st.stopping st.transferSize status actualLength
    let st := { st with outstanding := st.outstanding - 1 }
    if st.stopping then st.setSlot index { slot with status := .allocated }
    else
      let st := st.setSlot index { slot with status := .completed }
      if slot.error.isSome then { st with resubmitFailed := true }
      else match if st.resubmitFailed then none else st.freeReady with
        | none => st
        | some block => (st.handOver index block).replenish code inner index

/-- The callbacks from inside a call. -/
def dispatch : Dispatch → StreamState → StreamState
  | .done, st => st
  | .callback index transfer status actualLength code inner rest, st =>
    dispatch rest (onTransfer code (dispatch inner) index transfer status actualLength st)

/-! ## `wait_stream` -/

namespace StreamState

variable (st : StreamState)

/-- The delivered ready block may be used again. -/
def releaseReady : StreamState :=
  match st.deliveredReady with
  | some index =>
    { st.setReady index { st.ready index with ready := false } with deliveredReady := none }
  | none => st

/-- `wait_stream` gives back what it delivered before: a delivered slot is submitted again. -/
def release (submit : Submit) : StreamState × Option Error :=
  match st.delivered with
  | none => (st.releaseReady, none)
  | some index =>
    if (st.slots index).status ≠ .completed then (st, some .internal)
    else
      let st := st.submitSlot submit.code (dispatch submit.inner) index
      if submit.code = 0 then ({ st with delivered := none }.releaseReady, none)
      else
        let error := mapLibusbError submit.code
        ({ st.setSlot index { st.slots index with status := .completed, error := some error } with
          delivered := none }, some error)

/-- The event of a completion of the given length. -/
def event (buffer actualLength : Nat) : StreamEvent :=
  ⟨if actualLength < st.transferSize then .shortTransfer else .data, buffer, actualLength⟩

/-- The lambda `completed`: the completion whose turn it is, `NOT_FOUND` if there is none. -/
def completed : StreamState × Result StreamEvent :=
  let next := { st with nextDeliveryOrder := st.nextDeliveryOrder + 1 }
  match (List.range st.count).find? fun index => (st.slots index).status == .completed &&
      (st.slots index).submissionOrder == st.nextDeliveryOrder with
  | some index =>
    match (st.slots index).error with
    | some e => (next, .error e)
    | none => ({ next with delivered := some index },
        .ok (st.event (st.slots index).buffer (st.slots index).actualLength))
  | none =>
    match (List.range st.count).find? fun index => (st.ready index).ready &&
        (st.ready index).submissionOrder == st.nextDeliveryOrder with
    | some index =>
      match (st.ready index).error with
      | some e => (next, .error e)
      | none => ({ next with deliveredReady := some index },
          .ok (st.event (st.ready index).buffer (st.ready index).actualLength))
    | none =>
      if st.deferredErrorValid && st.deferredErrorOrder == st.nextDeliveryOrder then
        ({ next with deferredErrorValid := false }, .error st.deferredError)
      else (st, .error .notFound)

end StreamState

/-! ## The transport -/

/-- The stream members of `LibusbTransport`. `leaked` is a stream state that was given up without
being freed; it is still there for its callbacks. -/
structure Transport where
  stream : Option StreamState := none
  active : Bool := false
  abandoned : Bool := false
  policyFailed : Bool := false
  leaked : Option StreamState := none
  nextBuffer : Nat := 0

/-- A callback that libusb makes while it handles events. -/
structure Completion where
  index : Nat
  transfer : Nat
  status : TransferStatus
  actualLength : Int
  submit : Submit := {}

namespace Transport

variable (t : Transport)

def onTransfer (c : Completion) : Transport :=
  let run := Usb.onTransfer c.submit.code (dispatch c.submit.inner) c.index c.transfer c.status
    c.actualLength
  match t.stream with
  | some st => { t with stream := some (run st) }
  | none => { t with leaked := t.leaked.map run }

/-- `wait_stream` up to the point where it gives the gate up for events: it has returned, or it
goes on there. -/
def waitEnter (submit : Submit) : Transport × Option (Result StreamEvent) :=
  match t.active, t.stream with
  | true, some st =>
    if st.stopping then (t, some (.error .notReady))
    else match st.release submit with
      | (st, some e) => ({ t with stream := some st }, some (.error e))
      | (st, none) => match st.completed with
        | (st, .ok event) => ({ t with stream := some st }, some (.ok event))
        | (st, .error e) =>
          ({ t with stream := some st }, if e = .notFound then none else some (.error e))
  | _, _ => (t, some (.error .notReady))

/-- `wait_stream` from there on; `eventResult` is the result of `handle_events`, 0 if another
thread handles the events. -/
def waitResume (eventResult : Int) : Transport × Result StreamEvent :=
  if eventResult ≠ 0 then (t, .error (mapLibusbError eventResult))
  else match t.active, t.stream with
    | true, some st =>
      if st.stopping then (t, .error .notReady)
      else match st.completed with
        | (st, .ok event) => ({ t with stream := some st }, .ok event)
        | (st, .error e) =>
          ({ t with stream := some st }, .error (if e = .notFound then .timeout else e))
    | _, _ => (t, .error .notReady)

end Transport

/-! ### Cancelling and draining -/

/-- `kMaxDrainEventCalls`. -/
def kMaxDrainEventCalls : Nat := 8

/-- The locals of `cancel_and_drain_locked`. -/
structure Drain where
  calls : Nat := 0
  firstError : Option Error := none
  deriving DecidableEq, Repr

/-- The drain goes on with an event call, or has ended. -/
inductive DrainOutcome
  | again (drain : Drain)
  | ended (result : Result Unit)
  deriving DecidableEq

/-- Success, or the first error. -/
def resultOf : Option Error → Result Unit
  | none => .ok ()
  | some e => .error e

/-- The outcomes of libusb's functions in a cancel: `cancel_transfer` for each slot, `finish_stream`
and the last `handle_events`. -/
structure CancelEnv where
  cancel : Nat → Int := fun _ => 0
  finish : Int := 0
  events : Int := 0

namespace Transport

variable (t : Transport)

/-- The loop of `cancel_and_drain_locked` at its condition, and what follows the loop. With no
stream there is nothing to look at: one thread at a time cancels. -/
def drainCheck (env : CancelEnv) (d : Drain) : Transport × DrainOutcome :=
  match t.stream with
  | none => (t, .ended (resultOf d.firstError))
  | some st =>
    if st.outstanding ≠ 0 ∧ d.calls < kMaxDrainEventCalls then (t, .again d)
    else if st.outstanding ≠ 0 then
      -- callbacks may still come: everything is leaked on purpose
      ({ t with stream := none, leaked := some st, active := false, abandoned := true },
        .ended (.error (d.firstError.getD .usbIo)))
    else
      let failed := st.rawIoEnabled && env.finish != 0
      ({ t with
        stream := none, active := false, policyFailed := t.policyFailed || failed },
        .ended (resultOf
          (d.firstError.or (if failed then some (mapLibusbError env.finish) else none))))

/-- The first error of cancelling the submitted transfers. -/
def cancelError (env : CancelEnv) (st : StreamState) : Option Error :=
  (List.range st.count).findSome? fun index =>
    if (st.slots index).status = .submitted ∧ env.cancel index ≠ 0 ∧
        env.cancel index ≠ kErrorNotFound then some (mapLibusbError (env.cancel index))
    else none

/-- `cancel_and_drain_locked`, up to its first event call. -/
def cancelAndDrain (env : CancelEnv) : Transport × DrainOutcome :=
  match t.stream with
  | none => ({ t with active := false }, .ended (.ok ()))
  | some st =>
    { t with stream := some { st with stopping := true } }.drainCheck env
      { firstError := cancelError env st }

/-- The drain after an event call. -/
def drainResume (env : CancelEnv) (d : Drain) : Transport × DrainOutcome :=
  t.drainCheck env {
    calls := d.calls + 1
    firstError :=
      d.firstError.or (if env.events ≠ 0 then some (mapLibusbError env.events) else none) }

/-- `cancel_stream` and `stop_stream`. -/
def cancelStream (env : CancelEnv) : Transport × DrainOutcome :=
  if !t.active then (t, .ended (.ok ())) else t.cancelAndDrain env

end Transport

/-! ### Starting -/

/-- `kTsInEndpoint`. -/
def kTsInEndpoint : Nat := 0x84

/-- `kMaxStreamTransfers`. -/
def kMaxStreamTransfers : Nat := 64

/-- `StreamConfig`. -/
structure StreamConfig where
  endpoint : Nat
  transferSize : Nat
  transferCount : Nat
  deriving DecidableEq, Repr

/-- What `start_stream` meets: another transport has been abandoned, the allocations, the stream
policy, the submissions, and the outcomes of a cancel if one of these fails. -/
structure StartEnv where
  runtimeAbandoned : Bool := false
  stateAllocated : Bool := true
  prepare : Int := 0
  transferSize : Nat
  rawIoEnabled : Bool := false
  readyAllocated : Nat → Bool := fun _ => true
  bufferAllocated : Nat → Bool := fun _ => true
  transfer : Nat → Option Nat := some
  submit : Nat → Submit := fun _ => {}
  cancel : CancelEnv := {}

/-- `start_stream` has ended, or drains what it had submitted before it fails. -/
inductive StartOutcome
  | ended (result : Result Unit)
  | draining (drain : Drain) (error : Error)

def StreamState.setTransfer (st : StreamState) (index : Nat) (transfer : Option Nat) :
    StreamState :=
  st.setSlot index { st.slots index with transfer }

/-- The slots are given their transfers and submitted, up to the first failure. -/
def startSlots (env : StartEnv) (st : StreamState) : List Nat → StreamState × Option Error
  | [] => (st, none)
  | index :: rest =>
    let st := st.setTransfer index (env.transfer index)
    if env.bufferAllocated index = false ∨ env.transfer index = none then (st, some .internal)
    else
      let submit := env.submit index
      let st := st.submitSlot submit.code (dispatch submit.inner) index
      if submit.code ≠ 0 then
        (st.setSlot index { st.slots index with status := .allocated },
          some (mapLibusbError submit.code))
      else startSlots env st rest

/-- A stream state whose buffers are named from `base` on, the slots' first. -/
def StreamState.create (base count : Nat) (env : StartEnv) : StreamState where
  slots := fun index => { buffer := base + index }
  ready := fun index => { buffer := base + count + index }
  count := count
  transferSize := env.transferSize
  rawIoEnabled := env.rawIoEnabled

namespace Transport

variable (t : Transport)

/-- `start_stream` after a failure. -/
def startFailed (env : StartEnv) (e : Error) : Transport × StartOutcome :=
  match t.cancelAndDrain env.cancel with
  | (t, .ended _) => (t, .ended (.error e))
  | (t, .again d) => (t, .draining d e)

/-- `start_stream`. -/
def startStream (config : StreamConfig) (env : StartEnv) : Transport × StartOutcome :=
  if config.endpoint ≠ kTsInEndpoint ∨ config.transferSize = 0 ∨
      config.transferSize > kMaxStreamTransfer ∨ config.transferCount = 0 ∨
      config.transferCount > kMaxStreamTransfers then (t, .ended (.error .invalidArgument))
  else if t.abandoned || t.policyFailed || env.runtimeAbandoned then (t, .ended (.error .usbIo))
  else if t.active then (t, .ended (.error .busy))
  else if !env.stateAllocated then (t, .ended (.error .internal))
  else
    let st := StreamState.create t.nextBuffer config.transferCount env
    let t := { t with
      stream := some st, active := true, nextBuffer := t.nextBuffer + 2 * config.transferCount }
    if env.prepare ≠ 0 ∨ env.transferSize = 0 ∨ env.transferSize > kMaxStreamTransfer then
      t.startFailed env (if env.prepare ≠ 0 then mapLibusbError env.prepare else .internal)
    else if (List.range config.transferCount).any (fun index => !env.readyAllocated index) then
      t.startFailed env .internal
    else match startSlots env st (List.range config.transferCount) with
      | (st, none) => ({ t with stream := some st }, .ended (.ok ()))
      | (st, some e) => { t with stream := some st }.startFailed env e

end Transport

end Px4.Usb
