import Px4.It930x.Firmware

/-!
# The UART of the card (`it930x.cpp`)

`write_card_data` and `read_card_data`, which move what is sent and received in chunks. Their loops
count rounds; without any left they end in `Stop.undefined`, as does a copy that leaves the output.
-/

namespace Px4.It930x

/-- `kRegRead`. -/
def kRegRead : UInt16 := 0x00

/-- `kUartRead`. -/
def kUartRead : UInt16 := 0x33

/-- `kUartWrite`. -/
def kUartWrite : UInt16 := 0x34

/-- `kUartRealSend`. -/
def kUartRealSend : UInt32 := 0x4965

/-- `kUartRxLength`. -/
def kUartRxLength : UInt32 := 0x496b

/-- `kMaxResponsePayload`. -/
def kMaxResponsePayload : Nat := 251

/-- `kCardFrameMaxLength`. -/
def kCardFrameMaxLength : Nat := 255

/-- `kCardReadChunkMaxLength`. -/
def kCardReadChunkMaxLength : Nat := 32

/-- `kCardWriteChunkMaxLength`. -/
def kCardWriteChunkMaxLength : Nat := 48

/-- `read_registers_locked`. -/
def readRegistersLocked (reg : UInt32) (length : Nat) : Control (List UInt8) := do
  if length = 0 ∨ kMaxResponsePayload < length then Control.fail .invalidArgument
  else
    let answer ← transactLocked kRegRead
      (ByteView.of (UInt8.ofNat length :: registerLength reg :: putU32Be reg))
    if answer.length ≠ length then Control.fail .protocolError
    else return answer

/-- `std::copy` into the output, from an index on. -/
def copyInto (output : List UInt8) (index : Nat) (values : List UInt8) : Except Stop (List UInt8) :=
  if index + values.length ≤ output.length then
    .ok (output.take index ++ values ++ output.drop (index + values.length))
  else .error .undefined

/-- The loop of `read_card_data`: the number of bytes received, and the output with them. -/
def readFrom : Nat → List UInt8 → Nat → Control (Nat × List UInt8)
  | 0, _, _ => throw .undefined
  | fuel + 1, output, total =>
    if total < output.length then do
      let available ← Control.lift (byteAt (← readRegistersLocked kUartRxLength 1) 0)
      if available = 0 then return (total, output)
      else
        let chunkSize := min (min available.toNat kCardReadChunkMaxLength) (output.length - total)
        let answer ← transactLocked kUartRead (ByteView.of [UInt8.ofNat chunkSize])
        if answer.length ≠ chunkSize then Control.fail .protocolError
        else
          let output ← Control.lift (copyInto output total answer)
          readFrom fuel output (total + chunkSize)
    else return (total, output)

/-- `read_card_data`, into an output that may be null. -/
def readCardData (output : Option (List UInt8)) : Control (Nat × List UInt8) :=
  match output with
  | none => Control.fail .invalidArgument
  | some output =>
    if output.length = 0 ∨ kCardFrameMaxLength < output.length then Control.fail .invalidArgument
    else readFrom (output.length + 1) output 0

/-- The loop of `write_card_data`, from `offset` on. -/
def writeFrom (input : List UInt8) : Nat → Nat → Control Unit
  | 0, _ => throw .undefined
  | fuel + 1, offset =>
    if offset < input.length then do
      let chunkSize := min kCardWriteChunkMaxLength (input.length - offset)
      (if offset + chunkSize = input.length then writeRegistersLocked kUartRealSend
        (ByteView.of [1])
        else pure ())
      let chunk ← Control.lift (partOf input offset chunkSize)
      send kUartWrite (ByteView.of (UInt8.ofNat chunkSize :: chunk.bytes))
      writeFrom input fuel (offset + chunkSize)
    else return ()

/-- `write_card_data`. -/
def writeCardData (input : ByteView) : Control Unit :=
  if input.data = none ∨ input.size = 0 ∨ kCardFrameMaxLength < input.size then
    Control.fail .invalidArgument
  else writeFrom input.bytes (input.size + 1) 0

end Px4.It930x
