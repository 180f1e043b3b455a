import Mathlib.Algebra.Group.Nat.Defs

/-!
# Words in little-endian bytes

The words of 16, 32 and 64 bits, taken apart into bytes by shifts and put together by shifts and
`|||`. Each word is its bytes and the bytes are the word's (`bytes16_eq_iff`, `bytes32_eq_iff`,
`bytes64_eq_iff`), through their values as numbers.
-/

namespace Lib

/-- Digits that do not overlap. -/
theorem or_shiftLeft {x y k : Nat} (h : x < 2 ^ k) : x ||| y <<< k = x + y * 2 ^ k := by
  rw [Nat.or_comm, ← Nat.shiftLeft_add_eq_or_of_lt h, Nat.shiftLeft_eq, Nat.add_comm]

/-- The bytes of a word of 16 bits. -/
def bytes16 (v : UInt16) : List UInt8 := [v.toUInt8, (v >>> 8).toUInt8]

/-- The bytes of a word of 32 bits. -/
def bytes32 (v : UInt32) : List UInt8 :=
  [v.toUInt8, (v >>> 8).toUInt8, (v >>> 16).toUInt8, (v >>> 24).toUInt8]

/-- The bytes of a word of 64 bits. -/
def bytes64 (v : UInt64) : List UInt8 := bytes32 v.toUInt32 ++ bytes32 (v >>> 32).toUInt32

@[simp] theorem bytes16_length (v : UInt16) : (bytes16 v).length = 2 := rfl

@[simp] theorem bytes32_length (v : UInt32) : (bytes32 v).length = 4 := rfl

@[simp] theorem bytes64_length (v : UInt64) : (bytes64 v).length = 8 := rfl

theorem toNat_join16 (b0 b1 : UInt8) :
    (b0.toUInt16 ||| b1.toUInt16 <<< 8).toNat = b0.toNat + b1.toNat * 256 := by
  have h0 := b0.toNat_lt
  have h1 := b1.toNat_lt
  have hs : b1.toNat <<< 8 < 65536 := by
    rw [Nat.shiftLeft_eq]
    omega
  have h8 : UInt16.toNat 8 % 16 = 8 := rfl
  simp only [UInt16.toNat_or, UInt8.toNat_toUInt16, UInt16.toNat_shiftLeft, h8, Nat.reducePow,
    Nat.mod_eq_of_lt hs]
  exact (or_shiftLeft (by omega)).trans (by omega)

theorem toNat_join32 (b0 b1 b2 b3 : UInt8) :
    (b0.toUInt32 ||| b1.toUInt32 <<< 8 ||| b2.toUInt32 <<< 16 ||| b3.toUInt32 <<< 24).toNat =
      b0.toNat + b1.toNat * 256 + b2.toNat * 65536 + b3.toNat * 16777216 := by
  have h0 := b0.toNat_lt
  have h1 := b1.toNat_lt
  have h2 := b2.toNat_lt
  have h3 := b3.toNat_lt
  have hs1 : b1.toNat <<< 8 < 4294967296 := by
    rw [Nat.shiftLeft_eq]
    omega
  have hs2 : b2.toNat <<< 16 < 4294967296 := by
    rw [Nat.shiftLeft_eq]
    omega
  have hs3 : b3.toNat <<< 24 < 4294967296 := by
    rw [Nat.shiftLeft_eq]
    omega
  have h8 : UInt32.toNat 8 % 32 = 8 := rfl
  have h16 : UInt32.toNat 16 % 32 = 16 := rfl
  have h24 : UInt32.toNat 24 % 32 = 24 := rfl
  simp only [UInt32.toNat_or, UInt8.toNat_toUInt32, UInt32.toNat_shiftLeft, h8, h16, h24,
    Nat.reducePow, Nat.mod_eq_of_lt hs1, Nat.mod_eq_of_lt hs2, Nat.mod_eq_of_lt hs3]
  have e1 : b0.toNat ||| b1.toNat <<< 8 = b0.toNat + b1.toNat * 2 ^ 8 := or_shiftLeft (by omega)
  rw [e1]
  have e2 : b0.toNat + b1.toNat * 2 ^ 8 ||| b2.toNat <<< 16 =
      b0.toNat + b1.toNat * 2 ^ 8 + b2.toNat * 2 ^ 16 := or_shiftLeft (by omega)
  rw [e2]
  exact (or_shiftLeft (by omega)).trans (by omega)

theorem toNat_join64 (low high : UInt32) :
    (low.toUInt64 ||| high.toUInt64 <<< 32).toNat = low.toNat + high.toNat * 4294967296 := by
  have hl := low.toNat_lt
  have hh := high.toNat_lt
  have hs : high.toNat <<< 32 < 18446744073709551616 := by
    rw [Nat.shiftLeft_eq]
    omega
  have h32 : UInt64.toNat 32 % 64 = 32 := rfl
  simp only [UInt64.toNat_or, UInt32.toNat_toUInt64, UInt64.toNat_shiftLeft, h32, Nat.reducePow,
    Nat.mod_eq_of_lt hs]
  exact (or_shiftLeft (by omega)).trans (by omega)

/-- **16 bits**: two bytes are those of a word exactly when they make it up. -/
theorem bytes16_eq_iff (b0 b1 : UInt8) (v : UInt16) :
    b0.toUInt16 ||| b1.toUInt16 <<< 8 = v ↔ [b0, b1] = bytes16 v := by
  have h0 := b0.toNat_lt
  have h1 := b1.toNat_lt
  have hv := v.toNat_lt
  rw [← UInt16.toNat_inj, toNat_join16]
  simp only [bytes16, List.cons.injEq, and_true, ← UInt8.toNat_inj, UInt16.toNat_toUInt8,
    UInt16.toNat_shiftRight, Nat.shiftRight_eq_div_pow]
  have h8 : UInt16.toNat 8 % 16 = 8 := rfl
  simp only [h8, Nat.reducePow]
  omega

/-- **32 bits.** -/
theorem bytes32_eq_iff (b0 b1 b2 b3 : UInt8) (v : UInt32) :
    b0.toUInt32 ||| b1.toUInt32 <<< 8 ||| b2.toUInt32 <<< 16 ||| b3.toUInt32 <<< 24 = v ↔
      [b0, b1, b2, b3] = bytes32 v := by
  have h0 := b0.toNat_lt
  have h1 := b1.toNat_lt
  have h2 := b2.toNat_lt
  have h3 := b3.toNat_lt
  have hv := v.toNat_lt
  rw [← UInt32.toNat_inj, toNat_join32]
  simp only [bytes32, List.cons.injEq, and_true, ← UInt8.toNat_inj, UInt32.toNat_toUInt8,
    UInt32.toNat_shiftRight, Nat.shiftRight_eq_div_pow]
  have h8 : UInt32.toNat 8 % 32 = 8 := rfl
  have h16 : UInt32.toNat 16 % 32 = 16 := rfl
  have h24 : UInt32.toNat 24 % 32 = 24 := rfl
  simp only [h8, h16, h24, Nat.reducePow]
  omega

/-- **64 bits**, as two words of 32. -/
theorem bytes64_eq_iff (low high : UInt32) (v : UInt64) :
    low.toUInt64 ||| high.toUInt64 <<< 32 = v ↔
      low = v.toUInt32 ∧ high = (v >>> 32).toUInt32 := by
  have hl := low.toNat_lt
  have hh := high.toNat_lt
  have hv := v.toNat_lt
  rw [← UInt64.toNat_inj, toNat_join64]
  simp only [← UInt32.toNat_inj, UInt64.toNat_toUInt32, UInt64.toNat_shiftRight,
    Nat.shiftRight_eq_div_pow]
  have h32 : UInt64.toNat 32 % 64 = 32 := rfl
  simp only [h32, Nat.reducePow]
  omega

end Lib
