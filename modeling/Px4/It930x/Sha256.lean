import Px4.Core
import Px4.Lib.Mem

/-!
# Digests of firmware images (`firmware.cpp`)

`Sha256`: a block of 64 bytes that fills up, the hash value of the blocks so far, and the length in
bits. Writes past the block have no value, nor have loops without any rounds left.
-/

namespace Px4.It930x

open Lib

/-- Eight words: `state_`, and `a` to `h` of `transform`. -/
structure Words where
  a : UInt32
  b : UInt32
  c : UInt32
  d : UInt32
  e : UInt32
  f : UInt32
  g : UInt32
  h : UInt32
  deriving DecidableEq, Repr

/-- `Sha256`. -/
structure Sha256 where
  state : Words
  block : Nat → UInt8
  blockSize : Nat
  bitLength : UInt64

/-- `kRoundConstants`. -/
def kRoundConstants : List UInt32 := [
  0x428a2f98, 0x71374491, 0xb5c0fbcf, 0xe9b5dba5, 0x3956c25b, 0x59f111f1, 0x923f82a4, 0xab1c5ed5,
  0xd807aa98, 0x12835b01, 0x243185be, 0x550c7dc3, 0x72be5d74, 0x80deb1fe, 0x9bdc06a7, 0xc19bf174,
  0xe49b69c1, 0xefbe4786, 0x0fc19dc6, 0x240ca1cc, 0x2de92c6f, 0x4a7484aa, 0x5cb0a9dc, 0x76f988da,
  0x983e5152, 0xa831c66d, 0xb00327c8, 0xbf597fc7, 0xc6e00bf3, 0xd5a79147, 0x06ca6351, 0x14292967,
  0x27b70a85, 0x2e1b2138, 0x4d2c6dfc, 0x53380d13, 0x650a7354, 0x766a0abb, 0x81c2c92e, 0x92722c85,
  0xa2bfe8a1, 0xa81a664b, 0xc24b8b70, 0xc76c51a3, 0xd192e819, 0xd6990624, 0xf40e3585, 0x106aa070,
  0x19a4c116, 0x1e376c08, 0x2748774c, 0x34b0bcb5, 0x391c0cb3, 0x4ed8aa4a, 0x5b9cca4f, 0x682e6ff3,
  0x748f82ee, 0x78a5636f, 0x84c87814, 0x8cc70208, 0x90befffa, 0xa4506ceb, 0xbef9a3f7, 0xc67178f2]

namespace Sha256

/-- `rotate_right`. -/
def rotateRight (value shift : UInt32) : UInt32 := (value >>> shift) ||| (value <<< (32 - shift))

/-! ## Blocks -/

/-- The first loop of `transform`, at `index`. -/
def loadWord (block : Nat → UInt8) (index : Nat) : UInt32 :=
  ((block (index * 4)).toUInt32 <<< 24) |||
    ((block (index * 4 + 1)).toUInt32 <<< 16) |||
    ((block (index * 4 + 2)).toUInt32 <<< 8) |||
    (block (index * 4 + 3)).toUInt32

/-- The second loop of `transform`, at `index`. -/
def extendWord (words : List UInt32) (index : Nat) : UInt32 :=
  let word := fun back => words.getD (index - back) 0
  let s0 := rotateRight (word 15) 7 ^^^ rotateRight (word 15) 18 ^^^ (word 15 >>> 3)
  let s1 := rotateRight (word 2) 17 ^^^ rotateRight (word 2) 19 ^^^ (word 2 >>> 10)
  word 16 + s0 + word 7 + s1

/-- `words`, filled by the two loops. -/
def wordsOf (block : Nat → UInt8) : List UInt32 :=
  let words := (List.range' 0 16).foldl (fun words index => words.set index (loadWord block index))
    (List.replicate 64 0)
  (List.range' 16 48).foldl (fun words index => words.set index (extendWord words index)) words

/-- The third loop of `transform`, at `index`. -/
def mix (words : List UInt32) (s : Words) (index : Nat) : Words :=
  let sigma1 := rotateRight s.e 6 ^^^ rotateRight s.e 11 ^^^ rotateRight s.e 25
  let choose := (s.e &&& s.f) ^^^ (~~~s.e &&& s.g)
  let temporary1 := s.h + sigma1 + choose + kRoundConstants.getD index 0 + words.getD index 0
  let sigma0 := rotateRight s.a 2 ^^^ rotateRight s.a 13 ^^^ rotateRight s.a 22
  let majority := (s.a &&& s.b) ^^^ (s.a &&& s.c) ^^^ (s.b &&& s.c)
  let temporary2 := sigma0 + majority
  ⟨temporary1 + temporary2, s.a, s.b, s.c, s.d + temporary1, s.e, s.f, s.g⟩

/-- `transform`, of the block. -/
def transform (x : Sha256) : Sha256 :=
  let t := (List.range 64).foldl (mix (wordsOf x.block)) x.state
  { x with
    state := ⟨x.state.a + t.a, x.state.b + t.b, x.state.c + t.c, x.state.d + t.d, x.state.e + t.e,
      x.state.f + t.f, x.state.g + t.g, x.state.h + t.h⟩ }

/-! ## Messages -/

/-- `Sha256()`. -/
def new : Sha256 where
  state := ⟨0x6a09e667, 0xbb67ae85, 0x3c6ef372, 0xa54ff53a, 0x510e527f, 0x9b05688c,
    0x1f83d9ab, 0x5be0cd19⟩
  block := fun _ => 0
  blockSize := 0
  bitLength := 0

/-- The loop of `update`, with `data` left. -/
def take (x : Sha256) (data : List UInt8) : Nat → Option Sha256
  | 0 => none
  | fuel + 1 =>
    if data.length ≠ 0 then do
      let available := 64 - x.blockSize
      let count := if data.length < available then data.length else available
      let block ← write? 64 x.block x.blockSize (data.take count)
      let blockSize := x.blockSize + count
      let x := { x with block, blockSize, bitLength := x.bitLength + UInt64.ofNat count * 8 }
      take (if blockSize = 64 then { x.transform with blockSize := 0 } else x)
        (data.drop count) fuel
    else some x

/-- `update`. -/
def update (x : Sha256) (data : ByteView) : Option Sha256 :=
  if data.data = none ∧ data.size ≠ 0 then some x else x.take data.bytes (data.size + 1)

/-- `block_[block_size_++] = value`. -/
def push (x : Sha256) (value : UInt8) : Option Sha256 := do
  let block ← write? 64 x.block x.blockSize [value]
  return { x with block, blockSize := x.blockSize + 1 }

/-- `while (block_size_ < limit)` of `finish`. -/
def fill (x : Sha256) (limit : Nat) : Nat → Option Sha256
  | 0 => none
  | fuel + 1 =>
    if x.blockSize < limit then do
      let x ← x.push 0
      fill x limit fuel
    else some x

/-- `if (block_size_ > 56U)` of `finish`. -/
def closeBlock (x : Sha256) : Option Sha256 :=
  if 56 < x.blockSize then do
    let x ← x.fill 64 65
    return { x.transform with blockSize := 0 }
  else some x

/-- The last loop of `finish`. -/
def digestOf (state : Words) : List UInt8 :=
  [state.a, state.b, state.c, state.d, state.e, state.f, state.g, state.h].flatMap
    fun (word : UInt32) =>
    [(word >>> 24).toUInt8, (word >>> 16).toUInt8, (word >>> 8).toUInt8, word.toUInt8]

/-- `finish`. -/
def finish (x : Sha256) : Option (List UInt8) := do
  let x ← x.push 0x80
  let x ← x.closeBlock
  let x ← x.fill 56 57
  let block ← write? 64 x.block 56
    ((List.range 8).map fun index => (x.bitLength >>> UInt64.ofNat (56 - index * 8)).toUInt8)
  return digestOf (transform { x with block }).state

end Sha256

/-- `sha256_digest`. -/
def sha256Digest (bytes : ByteView) : Option (List UInt8) := do
  let sha256 ← Sha256.new.update bytes
  sha256.finish

end Px4.It930x
