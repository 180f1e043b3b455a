import Px4.It930x.Firmware
import Px4.It930x.Sha256

/-!
# Firmware from a file (`firmware.cpp`)

`FirmwareProvider::load`: the file is read in chunks, each of which is checked against the size of
the image, taken into the digest, and kept; in the end size, digest and blocks of what was kept have
to be right. A file may be without an end. Loops without any rounds left, and a digest without a
value, end in `Stop.undefined`.
-/

namespace Px4.It930x

/-- `kIt930xFirmwareSize`. -/
def kIt930xFirmwareSize : Nat := 2169

/-- `kIt930xFirmwareSha256`. -/
def kIt930xFirmwareSha256 : List UInt8 := [
  0x52, 0x13, 0xa5, 0xa3, 0x88, 0x72, 0x66, 0x12, 0x77, 0xa2, 0xcc, 0x1b, 0x2d, 0xfd, 0xfe, 0x88,
  0xfa, 0xf0, 0x6f, 0x41, 0x20, 0x5f, 0x46, 0x0f, 0x3b, 0x51, 0x85, 0x7f, 0x05, 0x68, 0xb4, 0x84]

/-- The size of `chunk`. -/
def kChunkSize : Nat := 512

/-- What `file.read` of a chunk comes to: all of it, what there is up to the end of the file, or an
error of the device below, which leaves nothing read. -/
inductive FileRead
  | full (chunk : List UInt8) (size : chunk.length = kChunkSize)
  | rest (chunk : List UInt8) (size : chunk.length < kChunkSize)
  | broken

/-- A file that is open: what its reads come to, one after the other. -/
abbrev File := Nat → FileRead

/-- `FirmwareImage`. -/
structure FirmwareImage where
  data : List UInt8
  deriving DecidableEq, Repr

/-- `accepted_policy`. -/
def FirmwareImage.acceptedPolicy (size : Nat) (digest : List UInt8) : Bool :=
  size == kIt930xFirmwareSize && digest == kIt930xFirmwareSha256

namespace FirmwareProvider

/-- What the loop of `load` has kept. -/
structure Taken where
  data : List UInt8 := []
  sha256 : Sha256 := Sha256.new

/-- What a round of the loop does with the bytes it has read. -/
def keep (x : Taken) (chunk : List UInt8) : Except Stop Taken :=
  if 0 < chunk.length then
    let count := chunk.length
    if kIt930xFirmwareSize - (if kIt930xFirmwareSize < count then kIt930xFirmwareSize else count) <
        x.data.length then rejected
    else do
      let sha256 ← defined (x.sha256.update (ByteView.of chunk))
      return ⟨x.data ++ chunk, sha256⟩
  else return x

/-- `while (file)`, before the `n`-th read, and the check of the stream after it. -/
def readFrom (file : File) : Nat → Nat → Taken → Except Stop Taken
  | 0, _, _ => throw .undefined
  | fuel + 1, n, x =>
    match file n with
    | .full chunk _ => do
      let x ← keep x chunk
      readFrom file fuel (n + 1) x
    | .rest chunk _ => keep x chunk
    | .broken => throw (.failure .internal)

/-- What `load` does after the loop. -/
def accept (x : Taken) : Except Stop FirmwareImage := do
  let digest ← defined x.sha256.finish
  if !FirmwareImage.acceptedPolicy x.data.length digest then rejected
  else
    match validateScatterImage (x.data.length + 1) (ByteView.of x.data) with
    | .error .undefined => throw .undefined
    | .error (.failure _) => rejected
    | .ok () => return ⟨x.data⟩

/-- `load`, of a file that is open or cannot be opened. -/
def load (fuel : Nat) (path : List UInt8) (file : Option File) : Except Stop FirmwareImage :=
  if path = [] ∨ 0 ∈ path then throw (.failure .invalidArgument)
  else
    match file with
    | none => throw (.failure .notFound)
    | some file => do
      let x ← readFrom file fuel 0 {}
      accept x

end FirmwareProvider

end Px4.It930x
