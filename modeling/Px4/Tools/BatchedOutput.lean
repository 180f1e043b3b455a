import Px4.Core
import Px4.Lib.Oracle
import Px4.Lib.Program

/-!
# Batched output of a transport stream (`px4_ts_batched_output.h`)

`Px4TsBatchedFdOutput` collects packets and writes them 256 at a time. What `write`, `poll` and
`stop_requested` return is arbitrary, but for a `write` of more bytes than it was given. The loops
count rounds; without any left they end in `Stop.undefined`.
-/

namespace Px4.Tools

open Lib (Program)

/-- `errno`. -/
inductive Errno
  | eintr | eagain | ewouldblock | epipe | eio
  | other (code : Nat)
  deriving DecidableEq, Repr

/-- What `poll` reports: nothing in time, or the descriptor, with `POLLERR`, `POLLHUP` or `POLLNVAL`
or without. -/
inductive Polled
  | timeout
  | ready (bad : Bool)
  deriving DecidableEq, Repr

/-- What the output asks of its surroundings. -/
inductive Ask
  | write (values : List UInt8)
  | poll
  | stopRequested
  deriving DecidableEq, Repr

/-- The number of bytes written or `errno`, what `poll` reports or `errno`, and the stop signal. -/
abbrev Ask.Answer : Ask → Type
  | .write values => Except Errno { written : Nat // written ≤ values.length }
  | .poll => Except Errno Polled
  | .stopRequested => Bool

/-- `kPacketSize`. -/
def kPacketSize : Nat := 188

/-- `kPacketsPerWrite`. -/
def kPacketsPerWrite : Nat := 256

/-- `kBufferSize`. -/
def kBufferSize : Nat := kPacketSize * kPacketsPerWrite

/-- `kStopPacketPollLimit`. -/
def kStopPacketPollLimit : Nat := 10

/-- `Px4TsBatchedFdOutput`; `buffer` is the part of `buffer_` in use. -/
structure Px4TsBatchedFdOutput where
  ready : Bool := false
  failed : Bool := false
  systemError : Option Errno := none
  writtenPackets : UInt64 := 0
  writeLimit : Nat := kBufferSize
  packetBoundaryWrites : Bool := false
  socketStreamWrites : Bool := false
  buffer : List UInt8 := []

/-! ## The constructor -/

/-- `st_mode`. -/
inductive FileType
  | fifo | socket | other
  deriving DecidableEq, Repr

/-- What the system calls of the constructor return: `fcntl` twice, `fstat` twice, `fpathconf`, the
`SOCK_STREAM` of `getsockopt` and the `AF_UNIX` of `getsockname`. -/
structure Probe where
  fd : Int
  getFlags : Int
  setFlags : Int
  firstStat : Option FileType
  pipeBuf : Int
  secondStat : Option FileType
  stream : Option Bool
  unix : Option Bool

/-- The constructor. -/
def Px4TsBatchedFdOutput.construct (probe : Probe) : Px4TsBatchedFdOutput :=
  if probe.fd < 0 then {}
  else if probe.getFlags < 0 ∨ probe.setFlags < 0 then {}
  else if probe.firstStat = some .fifo then
    { ready := true
      packetBoundaryWrites := true
      writeLimit :=
        if 0 < probe.pipeBuf ∧ 0 < probe.pipeBuf.toNat / kPacketSize then
          probe.pipeBuf.toNat / kPacketSize * kPacketSize
        else kPacketSize }
  else if probe.secondStat = some .socket ∧ probe.stream = some true ∧ probe.unix = some true then
    { ready := true, packetBoundaryWrites := true, socketStreamWrites :=
      true, writeLimit := kPacketSize }
  else { ready := true }

/-! ## Flushing -/

/-- The output, and what is around it. -/
structure World where
  output : Px4TsBatchedFdOutput
  system : Lib.Oracle Ask Ask.Answer

/-- A function of the output. -/
abbrev Tool (α : Type) := Program World Stop α

/-- A question. -/
def ask (q : Ask) : Tool q.Answer := do
  let w ← get
  set { w with system := (w.system.ask q).1 }
  return (w.system.ask q).2

/-- A change of the output. -/
def update (f : Px4TsBatchedFdOutput → Px4TsBatchedFdOutput) : Tool PUnit :=
  modify fun w => { w with output := f w.output }

/-- `fail`. -/
def fail {α : Type} (error : Errno) : Tool α := do
  update ({ · with systemError := some error, failed := true, buffer := [] })
  throw (.failure .internal)

/-- `stop`. -/
def stop {α : Type} : Tool α := do
  update ({ · with buffer := [] })
  throw (.failure .timeout)

/-- `stopping_at_packet_boundary`. -/
def stoppingAtPacketBoundary (offset : Nat) : Tool Bool := do
  let output := (← get).output
  if output.packetBoundaryWrites = true ∧ offset % kPacketSize = 0 then ask .stopRequested
  else return false

/-- `completing_stopped_socket_packet`. -/
def completingStoppedSocketPacket (offset : Nat) : Tool Bool := do
  let output := (← get).output
  if output.socketStreamWrites = true ∧ offset % kPacketSize ≠ 0 then ask .stopRequested
  else return false

/-- The size of the next write of `flush_buffer`. -/
def Px4TsBatchedFdOutput.writeSize (output : Px4TsBatchedFdOutput) (offset : Nat) : Nat :=
  let size :=
    if output.buffer.length - offset < output.writeLimit then output.buffer.length - offset
    else output.writeLimit
  if output.socketStreamWrites = true ∧ offset % kPacketSize ≠ 0 then
    min size (kPacketSize - offset % kPacketSize)
  else size

/-- A round of `flush_buffer` after a `write` that has written something: where the next one goes
on. -/
def advance (offset retries written : Nat) : Tool (Nat × Nat) := do
  let next := offset + written
  update fun output => { output with
    writtenPackets := output.writtenPackets + UInt64.ofNat
      (next / kPacketSize - offset / kPacketSize) }
  let output := (← get).output
  if next < output.buffer.length then
    if ← ask .stopRequested then
      if ← stoppingAtPacketBoundary next then stop
      else if output.socketStreamWrites = false ∨ next % kPacketSize = 0 then fail .eintr
      else return (next, retries)
    else return (next, retries)
  else return (next, retries)

/-- A round after `EINTR`. -/
def interrupted (offset retries : Nat) : Tool (Nat × Nat) := do
  if ← ask .stopRequested then
    if ← stoppingAtPacketBoundary offset then stop
    else if ← completingStoppedSocketPacket offset then
      if kStopPacketPollLimit ≤ retries + 1 then fail .eintr
      else return (offset, retries + 1)
    else fail .eintr
  else return (offset, retries)

/-- The inner loop, around `poll`. -/
def pollAgain : Nat → Tool (Except Errno Polled)
  | 0 => throw .undefined
  | fuel + 1 => do
    match ← ask .poll with
    | .error .eintr =>
      if ← ask .stopRequested then return .error .eintr
      else pollAgain fuel
    | polled => return polled

/-- What `poll` has reported. -/
def afterPoll (offset retries : Nat) (polled : Except Errno Polled) : Tool (Nat × Nat) := do
  match polled with
  | .error error =>
    if error = .eintr then
      if ← completingStoppedSocketPacket offset then return (offset, retries)
      else fail error
    else fail error
  | .ok (.ready true) => fail .eio
  | .ok _ => return (offset, retries)

/-- A round after `EAGAIN`, from `poll` on. -/
def waitWritable (fuel offset retries : Nat) : Tool (Nat × Nat) := do
  let polled ← pollAgain fuel
  if ← ask .stopRequested then
    if ← stoppingAtPacketBoundary offset then stop
    else if ← completingStoppedSocketPacket offset then
      if kStopPacketPollLimit ≤ retries + 1 then fail .eagain
      else afterPoll offset (retries + 1) polled
    else fail .eintr
  else afterPoll offset retries polled

/-- A round after `EAGAIN`. -/
def blocked (fuel offset retries : Nat) : Tool (Nat × Nat) := do
  if ← ask .stopRequested then
    if ← stoppingAtPacketBoundary offset then stop
    else if ← completingStoppedSocketPacket offset then waitWritable fuel offset retries
    else fail .eagain
  else waitWritable fuel offset retries

/-- A round of `flush_buffer`: offset and retries of the next one. -/
def flushRound (fuel offset retries : Nat) : Tool (Nat × Nat) := do
  let output := (← get).output
  match ← ask (.write ((output.buffer.drop offset).take (output.writeSize offset))) with
  | .ok written => if written.val = 0 then fail .eio else advance offset retries written.val
  | .error .eintr => interrupted offset retries
  | .error .eagain => blocked fuel offset retries
  | .error .ewouldblock => blocked fuel offset retries
  | .error .epipe => if ← stoppingAtPacketBoundary offset then stop else fail .epipe
  | .error error => fail error

/-- The loop of `flush_buffer`. -/
def flushLoop : Nat → Nat → Nat → Tool Unit
  | 0, _, _ => throw .undefined
  | fuel + 1, offset, retries => do
    if offset < (← get).output.buffer.length then
      let next ← flushRound fuel offset retries
      flushLoop fuel next.1 next.2
    else return ()

/-- `flush_buffer`. -/
def flushBuffer (fuel : Nat) : Tool Unit := do
  if (← get).output.buffer = [] then return ()
  else if ← stoppingAtPacketBoundary 0 then stop
  else
    flushLoop fuel 0 0
    update ({ · with buffer := [] })

/-! ## Calls -/

/-- `write` from the copy into the buffer on. -/
def append (fuel : Nat) (values : List UInt8) : Tool Unit := do
  update fun output => { output with buffer := output.buffer ++ values }
  if (← get).output.buffer.length = kBufferSize then flushBuffer fuel
  else return ()

/-- `write`. -/
def write (fuel : Nat) (bytes : ByteView) : Tool Unit := do
  let output := (← get).output
  if output.ready = false ∨ output.failed = true ∨ bytes.data = none ∨ bytes.size ≠ kPacketSize then
    throw (.failure .invalidArgument)
  else if ← ask .stopRequested then throw (.failure .timeout)
  else if kBufferSize < output.buffer.length + bytes.size then
    flushBuffer fuel
    append fuel bytes.bytes
  else append fuel bytes.bytes

/-- `finish`. -/
def finish (fuel : Nat) : Tool Unit := do
  let output := (← get).output
  if output.ready = false ∨ output.failed = true then throw (.failure .internal)
  else flushBuffer fuel

/-- A call of the output, of `write` with a packet. -/
inductive Call
  | write (packet : { values : List UInt8 // values.length = kPacketSize })
  | finish

/-- The bytes that a call gives. -/
def Call.bytes : Call → List UInt8
  | .write packet => packet.val
  | .finish => []

/-- A call. -/
def Call.run (fuel : Nat) : Call → Tool Unit
  | .write packet => Tools.write fuel (ByteView.of packet.val)
  | .finish => Tools.finish fuel

/-- Calls one after the other, with their results. There is none after one that does not come back.
-/
def runCalls (fuel : Nat) : List Call → World → List (Call × Except Stop Unit) × World
  | [], w => ([], w)
  | call :: calls, w =>
    match (call.run fuel).exec w with
    | (.error .undefined, w') => ([(call, .error .undefined)], w')
    | (result, w') => ((call, result) :: (runCalls fuel calls w').1, (runCalls fuel calls w').2)

end Px4.Tools
