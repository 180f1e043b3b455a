import Px4.Core
import Px4.Lib.Oracle

/-!
# Commands of the bridge (`it930x.cpp`)

`transact_locked`: a command in a frame out, its answer in a frame back. What the USB transport
makes of a transfer is arbitrary, but for the bounds of the buffer that it reads into. The bytes of
an answer are read through `byteAt`, which has nothing outside of it; a read there ends in
`Stop.undefined`. The pacing mode is one of its two values, which `valid_pacing_mode` accepts; the
pauses that it asks for are left out.
-/

namespace Px4.It930x

open Lib (Program)

/-- `bulk_write` and `bulk_read` of the transport, on the endpoints of the commands. -/
inductive Usb
  | bulkWrite (values : List UInt8)
  | bulkRead (capacity : Nat)
  deriving DecidableEq, Repr

/-- What they return: the number of bytes written, and the bytes read. -/
abbrev Usb.Answer : Usb → Type
  | .bulkWrite _ => Result Nat
  | .bulkRead capacity => Result { values : List UInt8 // values.length ≤ capacity }

/-- The transport, with the transfers so far. -/
abbrev Transport := Lib.Oracle Usb Usb.Answer

/-- The fields of `It930xController` that commands use. -/
structure CommandState where
  sequence : UInt8 := 0
  transport : Transport

/-- A function of the controller. -/
abbrev Control (α : Type) := Program CommandState Stop α

/-- `Result<T>::failure`. -/
def Control.fail {α : Type} (e : Error) : Control α := throw (.failure e)

/-- A computation that does not use the controller. -/
def Control.lift {α : Type} : Except Stop α → Control α
  | .ok a => pure a
  | .error stop => throw stop

/-- A transfer. -/
def Control.transfer (q : Usb) : Control q.Answer := do
  let c ← get
  set { c with transport := (c.transport.ask q).1 }
  return (c.transport.ask q).2

/-- `kFrameOverhead`. -/
def kFrameOverhead : Nat := 6

/-- `kResponseOverhead`. -/
def kResponseOverhead : Nat := 5

/-- `kMaxCommandPayload`. -/
def kMaxCommandPayload : Nat := 250

/-- `kRegWrite`. -/
def kRegWrite : UInt16 := 0x01

/-- `kQueryInfo`. -/
def kQueryInfo : UInt16 := 0x22

/-- `kBoot`. -/
def kBoot : UInt16 := 0x23

/-- `kFirmwareScatterWrite`. -/
def kFirmwareScatterWrite : UInt16 := 0x29

/-! ## Checksums -/

/-- Two bytes, the first one high. -/
def pair (high low : UInt8) : UInt16 := high.toUInt16 <<< 8 ||| low.toUInt16

/-- The loop of `checksum`, with `left` bytes from `index` on. -/
def sumFrom (read : Nat → Except Stop UInt8) : Nat → Nat → UInt16 → Except Stop UInt16
  | index, left + 2, sum => do
    let high ← read index
    let low ← read (index + 1)
    sumFrom read (index + 2) left (sum + pair high low)
  | index, 1, sum => do
    let high ← read index
    return sum + pair high 0
  | _, 0, sum => return sum

/-- `checksum` of `size` bytes from `start` on. -/
def checksum (read : Nat → Except Stop UInt8) (start size : Nat) : Except Stop UInt16 := do
  return ~~~(← sumFrom read start size 0)

/-- An element of an array. -/
def byteAt (values : List UInt8) (index : Nat) : Except Stop UInt8 := defined values[index]?

/-! ## Transactions -/

/-- The request up to its checksum. -/
def requestHead (command : UInt16) (sequence : UInt8) (payload : List UInt8) : List UInt8 :=
  UInt8.ofNat (payload.length + kFrameOverhead - 1) :: (command >>> 8).toUInt8 :: command.toUInt8 ::
    sequence :: payload

/-- The request. -/
def request (command : UInt16) (sequence : UInt8) (payload : List UInt8) :
    Except Stop (List UInt8) := do
  let head := requestHead command sequence payload
  let sum ← checksum (byteAt head) 1 (payload.length + kFrameOverhead - 3)
  return head ++ [(sum >>> 8).toUInt8, sum.toUInt8]

/-- The checks of an answer to the request with that sequence number, and its payload. -/
def payloadOf (sequence : UInt8) (response : List UInt8) : Except Stop (List UInt8) := do
  let size := response.length
  if size < kResponseOverhead then throw (.failure .protocolError)
  else
    let length ← byteAt response 0
    if length = 0 then throw (.failure .protocolError)
    else if size < length.toNat + 1 then throw (.failure .usbIo)
    else if size ≠ length.toNat + 1 then throw (.failure .protocolError)
    else
      let sum ← checksum (byteAt response) 1 (size - 3)
      let high ← byteAt response (size - 2)
      let low ← byteAt response (size - 1)
      let answered ← byteAt response 1
      if sum ≠ pair high low ∨ answered ≠ sequence then throw (.failure .protocolError)
      else
        let status ← byteAt response 2
        if status ≠ 0 then throw (.failure .usbIo)
        else return (response.drop 3).take (size - kResponseOverhead)

/-- `transact_locked`. -/
def transactLocked (command : UInt16) (payload : ByteView) : Control (List UInt8) := do
  if kMaxCommandPayload < payload.size ∨ (payload.size ≠ 0 ∧ payload.data = none) then
    Control.fail .invalidArgument
  else
    let sequence := (← get).sequence
    modify ({ · with sequence := sequence + 1 })
    let frame ← Control.lift (request command sequence payload.bytes)
    match ← Control.transfer (.bulkWrite frame) with
    | .error e => Control.fail e
    | .ok written =>
      if written ≠ payload.size + kFrameOverhead then Control.fail .usbIo
      else
        match ← Control.transfer (.bulkRead (kMaxCommandPayload + kFrameOverhead)) with
        | .error e => Control.fail e
        | .ok response => Control.lift (payloadOf sequence response.val)

/-- A call of `transact`. -/
structure Call where
  command : UInt16
  payload : ByteView

/-- The payload fits a request and is there. -/
def Call.Fits (call : Call) : Prop :=
  call.payload.size ≤ kMaxCommandPayload ∧ (call.payload.size = 0 ∨ call.payload.data ≠ none)

instance (call : Call) : Decidable call.Fits := inferInstanceAs (Decidable (_ ∧ _))

/-- A call, with its result. -/
def Call.transact (call : Call) (c : CommandState) : Except Stop (List UInt8) × CommandState :=
  (transactLocked call.command call.payload).exec c

/-- Calls one after the other, whatever they come to. -/
def transactAll : List Call → CommandState → CommandState
  | [], c => c
  | call :: calls, c => transactAll calls (call.transact c).2

end Px4.It930x
