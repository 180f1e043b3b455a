import Mathlib.Data.Nat.Count
import Px4.Lib.Run
import Px4.Usb.Stream

/-!
# The transfers of a transport over its life (`libusb_transport.cpp`)

`bulk_read`, `bulk_write` and the destructor of `LibusbTransport`, and the life of one transport:
the calls that start, read, cancel and close a stream, with the callbacks between them and while a
call waits for events. `freed` are the transfers that `destroy_stream_locked` has given to
`free_transfer`, each with the status of its slot at that time. One thread at a time cancels: a
second one would come back to a stream that the first has destroyed.
-/

namespace Px4.Usb

/-! ## Bulk transfers -/

/-- `kMaxCommandTransfer`. -/
def kMaxCommandTransfer : Nat := 65535

/-- `std::numeric_limits<int>::max()`. -/
def kMaxInt : Nat := 2 ^ 31 - 1

/-- `LIBUSB_ERROR_TIMEOUT`. -/
def kErrorTimeout : Int := -7

/-- `endpoint_is_in`. -/
def endpointIsIn (endpoint : UInt8) : Bool := endpoint != 0 && endpoint &&& 0x80 != 0

/-- `endpoint_is_out`. -/
def endpointIsOut (endpoint : UInt8) : Bool := endpoint != 0 && endpoint &&& 0x80 == 0

/-- A view of bytes, of which a bulk transfer checks the size and the pointer. -/
structure BulkView where
  size : Nat
  isNull : Bool := false
  deriving DecidableEq, Repr

/-- What a bulk transfer meets: another transport has been abandoned, and the result and the length
of libusb's `bulk_transfer`. -/
structure BulkEnv where
  runtimeAbandoned : Bool := false
  result : Int := 0
  transferred : Int := 0

/-- `BulkReadObservation`. -/
structure BulkReadObservation where
  error : Option Error := none
  transferred : Nat := 0
  deriving DecidableEq, Repr

/-- The checks of the arguments that both directions make. -/
def bulkCheck (direction : Bool) (view : BulkView) : Option Error :=
  if !direction then some .invalidArgument
  else if view.size > kMaxCommandTransfer then some .bufferTooSmall
  else if view.size ≠ 0 ∧ view.isNull = true then some .invalidArgument
  else if view.size > kMaxInt then some .bufferTooSmall
  else none

namespace Transport

variable (t : Transport)

/-- `bulk_read`, with its observation. -/
def bulkRead (endpoint : UInt8) (output : BulkView) (env : BulkEnv) :
    Result Nat × BulkReadObservation :=
  match bulkCheck (endpointIsIn endpoint) output with
  | some e => (.error e, ⟨some e, 0⟩)
  | none =>
    if t.abandoned || (endpoint.toNat == kTsInEndpoint && t.policyFailed) ||
      env.runtimeAbandoned then
      (.error .usbIo, ⟨some .usbIo, 0⟩)
    else if env.transferred < 0 ∨ env.transferred > output.size then
      (.error .internal, ⟨some .internal, 0⟩)
    else if env.result ≠ 0 then
      let e := mapLibusbError env.result
      (if env.result = kErrorTimeout ∧ env.transferred > 0 then .ok env.transferred.toNat
        else .error e, ⟨some e, env.transferred.toNat⟩)
    else (.ok env.transferred.toNat, ⟨none, env.transferred.toNat⟩)

/-- `bulk_write`. -/
def bulkWrite (endpoint : UInt8) (input : BulkView) (env : BulkEnv) : Result Nat :=
  match bulkCheck (endpointIsOut endpoint) input with
  | some e => .error e
  | none =>
    if t.abandoned || env.runtimeAbandoned then .error .usbIo
    else if env.result ≠ 0 then .error (mapLibusbError env.result)
    else if env.transferred < 0 ∨ env.transferred > input.size then .error .internal
    else .ok env.transferred.toNat

/-- `start_stream` up to the end of its submissions: it is refused, or there is a stream, with the
error that ends it again. -/
def startBegin (config : StreamConfig) (env : StartEnv) :
    Except Error (StreamState × Option Error) :=
  if config.endpoint ≠ kTsInEndpoint ∨ config.transferSize = 0 ∨
      config.transferSize > kMaxStreamTransfer ∨ config.transferCount = 0 ∨
      config.transferCount > kMaxStreamTransfers then .error .invalidArgument
  else if t.abandoned || t.policyFailed || env.runtimeAbandoned then .error .usbIo
  else if t.active then .error .busy
  else if !env.stateAllocated then .error .internal
  else
    let st := StreamState.create t.nextBuffer config.transferCount env
    if env.prepare ≠ 0 ∨ env.transferSize = 0 ∨ env.transferSize > kMaxStreamTransfer then
      .ok (st, some (if env.prepare ≠ 0 then mapLibusbError env.prepare else .internal))
    else if (List.range config.transferCount).any (fun index => !env.readyAllocated index) then
      .ok (st, some .internal)
    else .ok (startSlots env st (List.range config.transferCount))

end Transport

/-! ## The life of a transport -/

/-- The transfers that `destroy_stream_locked` frees. -/
def StreamState.transfers (st : StreamState) : List (Nat × SlotStatus) :=
  (List.range st.count).filterMap fun i =>
    (st.slots i).transfer.map fun transfer => (transfer, (st.slots i).status)

/-- What the loop of `cancel_and_drain_locked` frees where it ends. -/
def Transport.destroys (t : Transport) : List (Nat × SlotStatus) :=
  match t.stream with
  | some st => if st.outstanding = 0 then st.transfers else []
  | none => []

/-- A transport, the drain that a thread is in, the destructor and what was freed. -/
structure Host where
  transport : Transport := {}
  drain : Option Drain := none
  closing : Bool := false
  handleClosed : Bool := false
  freed : List (Nat × SlotStatus) := []

namespace Host

variable (s : Host)

/-- The rest of the destructor, after the drain. -/
def finishClose : Host :=
  let s := match s.transport.stream with
    | some st =>
      if s.transport.abandoned then s
      else { s with transport := { s.transport with stream := none }, freed :=
        s.freed ++ st.transfers }
    | none => s
  { s with closing := true, handleClosed := !s.transport.abandoned }

/-- A thread has come to the loop of `cancel_and_drain_locked`. -/
def drained : Transport × DrainOutcome → Host
  | (transport, .again d) => { s with transport, drain := some d }
  | (transport, .ended _) =>
    let s := { s with transport, drain := none, freed := s.freed ++ s.transport.destroys }
    if s.closing then s.finishClose else s

/-- `start_stream`. -/
def start (config : StreamConfig) (env : StartEnv) : Host :=
  let freed := match s.transport.startBegin config env with
    | .ok (st, some _) => s.freed ++ { s.transport with stream := some st }.destroys
    | _ => s.freed
  match s.transport.startStream config env with
  | (transport, .ended _) => { s with transport, freed }
  | (transport, .draining d _) => { s with transport, freed, drain := some d }

/-- What can happen. -/
inductive Act
  | start (config : StreamConfig) (env : StartEnv)
  | callback (c : Completion)
  | wait (submit : Submit)
  | resume (eventResult : Int)
  | cancel (env : CancelEnv)
  | drain (env : CancelEnv)
  | close (env : CancelEnv)

def step : Act → Host
  | .start config env => if s.closing then s else s.start config env
  | .callback c => { s with transport := s.transport.onTransfer c }
  | .wait submit => { s with transport := (s.transport.waitEnter submit).1 }
  | .resume eventResult => { s with transport := (s.transport.waitResume eventResult).1 }
  | .cancel env =>
    if s.drain.isSome || s.closing || !s.transport.active then s
    else s.drained (s.transport.cancelStream env)
  | .drain env =>
    match s.drain with
    | some d => s.drained (s.transport.drainResume env d)
    | none => s
  | .close env =>
    if s.drain.isSome || s.closing then s
    else if s.transport.active then
      { s with closing := true }.drained (s.transport.cancelAndDrain env)
    else s.finishClose

def run (acts : List Act) : Host := acts.foldl step {}

end Host

/-! ## What is owed -/

/-- The number of slots that are marked submitted. -/
def StreamState.submitted (st : StreamState) : Nat :=
  Nat.count (fun i => (st.slots i).status = .submitted) st.count

/-- The stream states that have not been destroyed. -/
def Transport.Has (t : Transport) (st : StreamState) : Prop :=
  t.stream = some st ∨ t.leaked = some st

/-- **The accounts of the transfers**: the counter is the number of submitted slots; nothing was
freed that was submitted; a drain that ends with transfers outstanding abandons them and frees
nothing; and an abandoned transport stays so, frees nothing, and refuses bulk transfers and starts.
-/
structure Accounted (s : Host) : Prop where
  counted : ∀ st, s.transport.Has st → st.outstanding = st.submitted
  unsubmitted : ∀ entry ∈ s.freed, entry.2 ≠ .submitted
  abandons : ∀ act st, s.transport.stream = some st → st.outstanding ≠ 0 →
    (s.step act).transport.stream = none →
      (s.step act).transport.abandoned = true ∧ (s.step act).freed = s.freed ∧
        ∃ st', (s.step act).transport.leaked = some st' ∧ st'.slots = st.slots
  stays : s.transport.abandoned = true → ∀ act,
    (s.step act).transport.abandoned = true ∧ (s.step act).freed = s.freed
  refuses : s.transport.abandoned = true →
    (∀ config env, ∃ e, (s.transport.startStream config env).2 = .ended (.error e)) ∧
      (∀ endpoint output env, ∃ e, (s.transport.bulkRead endpoint output env).1 = .error e) ∧
      ∀ endpoint input env, ∃ e, s.transport.bulkWrite endpoint input env = .error e

end Px4.Usb
