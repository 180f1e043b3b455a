import Mathlib.Data.Nat.Digits.Defs
import Mathlib.Data.Nat.Prime.Basic
import Px4.Lib.Blocks

/-!
# The Secure Hash Algorithm SHA-256

The digest of a message of bytes, as the Secure Hash Standard defines it. The constants are the
first bits of the fractional parts of square and cube roots of the first prime numbers.

* `mem_primesBelow`, `root_spec`: the constants are what the standard says.
* `zeros_spec`: there are no more zeros than needed.
* `pad_length`: a padded message consists of blocks.
-/

namespace Lib.Sha256

/-- A word. -/
abbrev Word := BitVec 32

/-! ## Constants -/

/-- The prime numbers below a bound: the numbers that no smaller one of them divides. -/
def primesBelow (bound : Nat) : List Nat :=
  (List.range bound).foldl
    (fun primes n => if 2 ≤ n ∧ ∀ p ∈ primes, ¬ p ∣ n then primes ++ [n] else primes) []

theorem mem_primesBelow {n bound : Nat} : n ∈ primesBelow bound ↔ n < bound ∧ n.Prime := by
  induction bound generalizing n with
  | zero => simp [primesBelow]
  | succ bound ih =>
    have hstep : primesBelow (bound + 1) =
        if 2 ≤ bound ∧ ∀ p ∈ primesBelow bound, ¬ p ∣ bound then primesBelow bound ++ [bound]
        else primesBelow bound := by
      unfold primesBelow
      rw [List.range_succ, List.foldl_append]
      rfl
    have hprime : (2 ≤ bound ∧ ∀ p ∈ primesBelow bound, ¬ p ∣ bound) ↔ bound.Prime := by
      constructor
      · rintro ⟨htwo, hnone⟩
        obtain ⟨p, hp, hdvd⟩ := Nat.exists_prime_and_dvd (n := bound) (by omega)
        rcases Nat.lt_or_ge p bound with hlt | hge
        · exact absurd hdvd (hnone p (ih.2 ⟨hlt, hp⟩))
        · rwa [Nat.le_antisymm hge (Nat.le_of_dvd (by omega) hdvd)]
      · intro hb
        refine ⟨hb.two_le, fun p hp hdvd => ?_⟩
        obtain ⟨hlt, hp⟩ := ih.1 hp
        have := (Nat.prime_dvd_prime_iff_eq hp hb).1 hdvd
        omega
    rw [hstep]
    split
    · next h =>
      rw [List.mem_append, List.mem_singleton, ih]
      constructor
      · rintro (⟨hlt, hn⟩ | rfl)
        · exact ⟨by omega, hn⟩
        · exact ⟨by omega, hprime.1 h⟩
      · rintro ⟨hlt, hn⟩
        by_cases heq : n = bound
        · exact .inr heq
        · exact .inl ⟨by omega, hn⟩
    · next h =>
      rw [ih]
      constructor
      · exact fun ⟨hlt, hn⟩ => ⟨by omega, hn⟩
      · rintro ⟨hlt, hn⟩
        refine ⟨?_, hn⟩
        by_contra hge
        have heq : n = bound := by omega
        exact h (hprime.2 (heq ▸ hn))

/-- The root of a number, rounded down, if it has no more bits: bits are set from the highest one
on. -/
def root (exponent n : Nat) : Nat → Nat → Nat
  | 0, r => r
  | bits + 1, r => root exponent n bits (if (r + 2 ^ bits) ^ exponent ≤ n then r + 2 ^ bits else r)

/-- The first 32 bits of the fractional part of the root of a number below 512. -/
def fraction (exponent n : Nat) : Word :=
  BitVec.ofNat 32 (root exponent (n * 2 ^ (32 * exponent)) 41 0)

/-- `root` is the root, rounded down. -/
theorem root_spec {exponent n bits r : Nat} (hr : r ^ exponent ≤ n)
    (hn : n < (r + 2 ^ bits) ^ exponent) :
    root exponent n bits r ^ exponent ≤ n ∧ n < (root exponent n bits r + 1) ^ exponent := by
  induction bits generalizing r with
  | zero => exact ⟨hr, hn⟩
  | succ bits ih =>
    unfold root
    split
    · next hle =>
      refine ih hle ?_
      rw [Nat.add_assoc, ← Nat.two_mul, ← Nat.pow_succ']
      exact hn
    · next hlt => exact ih hr (Nat.not_le.1 hlt)

/-- Eight words: a hash value, and the working variables. -/
structure Value where
  a : Word
  b : Word
  c : Word
  d : Word
  e : Word
  f : Word
  g : Word
  h : Word
  deriving DecidableEq, Repr

/-- The initial hash value, of the square roots of the first eight prime numbers. -/
def initial : Value :=
  ⟨fraction 2 2, fraction 2 3, fraction 2 5, fraction 2 7, fraction 2 11,
    fraction 2 13, fraction 2 17,
    fraction 2 19⟩

/-- The constants of the rounds, of the cube roots of the first sixty-four prime numbers. -/
def constants : List Word := (primesBelow 312).map (fraction 3)

example : (primesBelow 20) = [2, 3, 5, 7, 11, 13, 17, 19] ∧ (primesBelow 312).length = 64 := by
  decide +kernel

/-! ## Functions -/

def ch (x y z : Word) : Word := (x &&& y) ^^^ (~~~x &&& z)

def maj (x y z : Word) : Word := (x &&& y) ^^^ (x &&& z) ^^^ (y &&& z)

def bigSigma0 (x : Word) : Word := x.rotateRight 2 ^^^ x.rotateRight 13 ^^^ x.rotateRight 22

def bigSigma1 (x : Word) : Word := x.rotateRight 6 ^^^ x.rotateRight 11 ^^^ x.rotateRight 25

def smallSigma0 (x : Word) : Word := x.rotateRight 7 ^^^ x.rotateRight 18 ^^^ x >>> 3

def smallSigma1 (x : Word) : Word := x.rotateRight 17 ^^^ x.rotateRight 19 ^^^ x >>> 10

/-! ## A block -/

/-- Four bytes as a word, the highest one first. -/
def wordOf (bytes : List UInt8) : Word :=
  BitVec.ofNat 32 (Nat.ofDigits 256 (bytes.reverse.map UInt8.toNat))

/-- The word of the schedule that follows the words so far. -/
def nextWord (w : List Word) : Word :=
  smallSigma1 (w.getD (w.length - 2) 0) + w.getD (w.length - 7) 0 +
    smallSigma0 (w.getD (w.length - 15) 0) + w.getD (w.length - 16) 0

/-- The message schedule of a block of sixteen words. -/
def schedule (w : List Word) : List Word := (fun w => w ++ [nextWord w])^[48] w

/-- A round, with its constant and its word. -/
def round (s : Value) (k w : Word) : Value :=
  let t1 := s.h + bigSigma1 s.e + ch s.e s.f s.g + k + w
  let t2 := bigSigma0 s.a + maj s.a s.b s.c
  ⟨t1 + t2, s.a, s.b, s.c, s.d + t1, s.e, s.f, s.g⟩

/-- The intermediate hash value that follows `s` after a block of 64 bytes. -/
def compress (s : Value) (block : List UInt8) : Value :=
  let w := schedule ((List.range 16).map fun i => wordOf ((block.drop (4 * i)).take 4))
  let t := (constants.zip w).foldl (fun t kw => round t kw.1 kw.2) s
  ⟨s.a + t.a, s.b + t.b, s.c + t.c, s.d + t.d, s.e + t.e, s.f + t.f, s.g + t.g, s.h + t.h⟩

/-! ## A message -/

/-- The `count` lowest bytes of a number, the highest one first. -/
def bytesOf (count n : Nat) : List UInt8 :=
  ((List.range count).map fun i => UInt8.ofNat (n / 256 ^ i)).reverse

/-- How many zero bytes the padding of a message of `n` bytes has. -/
def zeros (n : Nat) : Nat := (119 - n % 64) % 64

/-- The message, a one bit, zeros, and the length in bits. -/
def pad (message : List UInt8) : List UInt8 :=
  message ++ 0x80 :: List.replicate (zeros message.length) 0 ++ bytesOf 8 (8 * message.length)

/-- `zeros` is the least count that leaves eight bytes of the last block. -/
theorem zeros_spec (n : Nat) :
    (n + 1 + zeros n) % 64 = 56 ∧ ∀ z < zeros n, (n + 1 + z) % 64 ≠ 56 := by
  unfold zeros
  constructor
  · omega
  · intro z hz
    omega

/-- **A padded message consists of blocks.** -/
theorem pad_length (message : List UInt8) :
    (pad message).length = message.length + 1 + zeros message.length + 8 ∧
    64 ∣ (pad message).length := by
  have h := (zeros_spec message.length).1
  have hlength : (pad message).length = message.length + 1 + zeros message.length + 8 := by
    simp only [pad, bytesOf, List.length_append, List.length_cons, List.length_replicate,
      List.length_reverse,
      List.length_map, List.length_range]
    omega
  exact ⟨hlength, by omega⟩

/-- The bytes of a hash value. -/
def Value.bytes (s : Value) : List UInt8 :=
  [s.a, s.b, s.c, s.d, s.e, s.f, s.g, s.h].flatMap fun w => bytesOf 4 w.toNat

/-- The digest of a message. -/
def digest (message : List UInt8) : List UInt8 :=
  (absorb 64 compress ((pad message).length / 64) initial (pad message)).bytes

example :
    digest [0x61, 0x62, 0x63] = [
      0xba, 0x78, 0x16, 0xbf, 0x8f, 0x01, 0xcf, 0xea, 0x41, 0x41, 0x40, 0xde,
      0x5d, 0xae, 0x22, 0x23,
      0xb0, 0x03, 0x61, 0xa3, 0x96, 0x17, 0x7a, 0x9c, 0xb4, 0x10, 0xff, 0x61, 0xf2,
      0x00, 0x15, 0xad] := by
  decide +kernel

end Lib.Sha256
