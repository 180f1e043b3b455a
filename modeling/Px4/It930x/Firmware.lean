import Px4.It930x.Control

/-!
# Firmware images (`it930x_protocol.cpp`, `it930x.cpp`)

`parse_scatter_block` and the two loops over the blocks of an image: `validate_scatter_image`, and
the one of `load_firmware_image_locked`. The loops count rounds; without any left they end in
`Stop.undefined`.
-/

namespace Px4.It930x

/-- `kScatterHeaderSize`. -/
def kScatterHeaderSize : Nat := 4

/-- `kScatterSegmentSize`. -/
def kScatterSegmentSize : Nat := 3

/-- `std::numeric_limits<std::size_t>::max()`. -/
def sizeMax : Nat := 2 ^ 64 - 1

/-- `ScatterBlock`. -/
structure ScatterBlock where
  offset : Nat
  size : Nat
  deriving DecidableEq, Repr

/-- `Result<T>::failure(Error::FIRMWARE_REJECTED)`. -/
def rejected {α : Type} : Except Stop α := throw (.failure .firmwareRejected)

/-- The loop of `parse_scatter_block`, with `left` segments from `index` on. -/
def sizeOfSegments (block : Nat → Except Stop UInt8) : Nat → Nat → Nat → Except Stop Nat
  | 0, _, dataSize => return dataSize
  | left + 1, index, dataSize => do
    let length ← block (kScatterHeaderSize + index * kScatterSegmentSize + 2)
    if sizeMax - length.toNat < dataSize then rejected
    else sizeOfSegments block left (index + 1) (dataSize + length.toNat)

/-- `parse_scatter_block`. -/
def parseScatterBlock (image : ByteView) (offset : Nat) : Except Stop ScatterBlock := do
  if image.size < offset ∨ image.data = none ∨ image.size - offset < kScatterHeaderSize then
    rejected
  else
    let block := fun index => byteAt image.bytes (offset + index)
    let kind ← block 0
    if kind ≠ 0x03 then rejected
    else
      let segmentCount ← block 3
      if (sizeMax - kScatterHeaderSize) / kScatterSegmentSize < segmentCount.toNat then rejected
      else
        let metadataSize := kScatterHeaderSize + segmentCount.toNat * kScatterSegmentSize
        if image.size - offset < metadataSize then rejected
        else
          let dataSize ← sizeOfSegments block segmentCount.toNat 0 0
          if dataSize = 0 ∨ sizeMax - dataSize < metadataSize then rejected
          else
            let blockSize := metadataSize + dataSize
            if kMaxCommandPayload < blockSize ∨ image.size - offset < blockSize then rejected
            else return ⟨offset, blockSize⟩

/-- The loop of `validate_scatter_image`, from `offset` on. -/
def validateFrom (image : ByteView) : Nat → Nat → Except Stop Unit
  | 0, _ => throw .undefined
  | fuel + 1, offset =>
    if offset < image.size then do
      let block ← parseScatterBlock image offset
      if block.size = 0 ∨ image.size - offset < block.size then rejected
      else validateFrom image fuel (offset + block.size)
    else return ()

/-- `validate_scatter_image`. -/
def validateScatterImage (fuel : Nat) (image : ByteView) : Except Stop Unit :=
  if image.data = none ∨ image.size = 0 then rejected else validateFrom image fuel 0

/-! ## The loader -/

/-- `size` bytes from `offset` on. -/
def partOf (values : List UInt8) (offset size : Nat) : Except Stop ByteView :=
  if offset + size ≤ values.length then .ok (ByteView.of ((values.drop offset).take size))
  else .error .undefined

/-- `transact_locked`, and the check that the answer is empty. -/
def send (command : UInt16) (payload : ByteView) : Control Unit := do
  let answer ← transactLocked command payload
  if answer ≠ [] then Control.fail .protocolError
  else return ()

/-- `register_length`. -/
def registerLength (reg : UInt32) : UInt8 :=
  if reg &&& 0xff000000 ≠ 0 then 4
  else if reg &&& 0x00ff0000 ≠ 0 then 3
  else if reg &&& 0x0000ff00 ≠ 0 then 2
  else 1

/-- `put_u32_be`. -/
def putU32Be (value : UInt32) : List UInt8 :=
  [(value >>> 24).toUInt8, (value >>> 16).toUInt8, (value >>> 8).toUInt8, value.toUInt8]

/-- `get_u32_be`. -/
def getU32Be (input : List UInt8) : Except Stop UInt32 := do
  let first ← byteAt input 0
  let second ← byteAt input 1
  let third ← byteAt input 2
  let fourth ← byteAt input 3
  return first.toUInt32 <<< 24 ||| second.toUInt32 <<< 16 ||| third.toUInt32 <<<
    8 ||| fourth.toUInt32

/-- `write_registers_locked`. -/
def writeRegistersLocked (reg : UInt32) (values : ByteView) : Control Unit := do
  if values.size = 0 ∨ kMaxCommandPayload - 6 < values.size ∨
      (values.size ≠ 0 ∧ values.data = none) then
    Control.fail .invalidArgument
  else
    send kRegWrite
      (ByteView.of (UInt8.ofNat values.size :: registerLength reg :: putU32Be reg ++ values.bytes))

/-- `firmware_version_locked`. -/
def firmwareVersionLocked : Control UInt32 := do
  let answer ← transactLocked kQueryInfo (ByteView.of [1])
  if answer.length ≠ 4 then Control.fail .protocolError
  else Control.lift (getU32Be answer)

/-- `FirmwareLoadResult`. -/
structure FirmwareLoadResult where
  alreadyLoaded : Bool
  firmwareVersion : UInt32
  verified : Bool
  deriving DecidableEq, Repr

/-- The loop of `load_firmware_image_locked`, from `offset` on. -/
def scatterFrom (image : List UInt8) : Nat → Nat → Control Unit
  | 0, _ => throw .undefined
  | fuel + 1, offset =>
    if offset < image.length then do
      let block ← Control.lift (parseScatterBlock (ByteView.of image) offset)
      let payload ← Control.lift (partOf image block.offset block.size)
      send kFirmwareScatterWrite payload
      scatterFrom image fuel (offset + block.size)
    else return ()

theorem noPayload : ∀ bytes : List UInt8, none = some bytes → bytes.length = 0 := by
  rintro _ ⟨⟩

/-- `load_firmware_image_locked`. -/
def loadFirmwareImageLocked (fuel : Nat) (image : List UInt8) : Control FirmwareLoadResult := do
  writeRegistersLocked 0xf103 (ByteView.of [0x07])
  scatterFrom image fuel 0
  send kBoot ⟨none, 0, noPayload⟩
  let version ← firmwareVersionLocked
  if version = 0 then Control.fail .protocolError
  else return ⟨false, version, false⟩

end Px4.It930x
