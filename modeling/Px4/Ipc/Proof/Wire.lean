import Px4.Ipc.Encode
import Px4.Lib.Grammar

/-!
# What the readers read

Every function of `Reader` reads exactly what the `Writer`'s function of its name writes (`u8_iff`,
`u16_iff`, ...), and so do the readers made of them. `Accepts` is the same of a decoder: it accepts
exactly the payloads that its values are written as.
-/

namespace Px4.Ipc

open Lib (Grammar)
open Lib.Parser (bind_iff pure_iff guard_iff lift_iff)

/-! ## The reader -/

theorem u8_iff (input rest : List UInt8) (a : UInt8) :
    Reader.u8 input = some (a, rest) ↔ input = Writer.u8 a ++ rest := by
  cases input <;> simp [Reader.u8, Writer.u8]

theorem u16_iff (input rest : List UInt8) (a : UInt16) :
    Reader.u16 input = some (a, rest) ↔ input = Writer.u16 a ++ rest := by
  unfold Reader.u16 Writer.u16
  simp only [bind_iff, u8_iff, pure_iff, Lib.bytes16_eq_iff]
  constructor
  · rintro ⟨b0, _, rfl, b1, _, rfl, hb, rfl⟩
    simp [← hb, Writer.u8]
  · rintro rfl
    exact ⟨_, _, rfl, _, _, rfl, rfl, rfl⟩

theorem u32_iff (input rest : List UInt8) (a : UInt32) :
    Reader.u32 input = some (a, rest) ↔ input = Writer.u32 a ++ rest := by
  unfold Reader.u32 Writer.u32
  simp only [bind_iff, u8_iff, pure_iff, Lib.bytes32_eq_iff]
  constructor
  · rintro ⟨b0, _, rfl, b1, _, rfl, b2, _, rfl, b3, _, rfl, hb, rfl⟩
    simp [← hb, Writer.u8]
  · rintro rfl
    exact ⟨_, _, rfl, _, _, rfl, _, _, rfl, _, _, rfl, rfl, rfl⟩

theorem u64_iff (input rest : List UInt8) (a : UInt64) :
    Reader.u64 input = some (a, rest) ↔ input = Writer.u64 a ++ rest := by
  unfold Reader.u64 Writer.u64 Lib.bytes64
  simp only [bind_iff, u32_iff, pure_iff, Lib.bytes64_eq_iff]
  constructor
  · rintro ⟨low, _, rfl, high, _, rfl, ⟨rfl, rfl⟩, rfl⟩
    simp [Writer.u32]
  · rintro rfl
    exact ⟨_, _, List.append_assoc _ _ _, _, _, rfl, ⟨rfl, rfl⟩, rfl⟩

/-- The values of `std::int32_t`. -/
def IsI32 (value : Int) : Prop := -2147483648 ≤ value ∧ value ≤ 2147483647

theorem i32_iff (input rest : List UInt8) (a : Int) :
    Reader.i32 input = some (a, rest) ↔ IsI32 a ∧ input = Writer.i32 a ++ rest := by
  have hraw : ∀ raw : UInt32,
      ((if raw ≤ 0x7fffffff then (raw.toNat : Int) else -((~~~raw + 1).toNat : Int)) = a ↔
        IsI32 a ∧ raw =
          if a ≥ 0 then UInt32.ofNat a.toNat else 0 - UInt32.ofNat (-a).toNat) := by
    intro raw
    have hlt := raw.toNat_lt
    have hneg : (~~~raw + 1).toNat = (4294967296 - raw.toNat) % 4294967296 := by
      simp [UInt32.toNat_add, UInt32.toNat_not]
      omega
    simp only [hneg, UInt32.le_iff_toNat_le, ← UInt32.toNat_inj, IsI32, UInt32.reduceToNat]
    split <;> split <;> simp [UInt32.size] <;> omega
  unfold Reader.i32 Writer.i32
  simp only [bind_iff, u32_iff, pure_iff, hraw]
  constructor
  · rintro ⟨raw, _, rfl, ⟨hi, rfl⟩, rfl⟩
    exact ⟨hi, rfl⟩
  · rintro ⟨hi, rfl⟩
    exact ⟨_, _, rfl, ⟨hi, rfl⟩, rfl⟩

theorem bytes_iff (length : Nat) (input rest a : List UInt8) :
    Reader.bytes length input = some (a, rest) ↔ a.length = length ∧ input = a ++ rest := by
  unfold Reader.bytes
  split
  · next h =>
    refine iff_of_false nofun ?_
    rintro ⟨rfl, rfl⟩
    rw [List.length_append] at h
    omega
  · next h =>
    simp only [Option.some.injEq, Prod.mk.injEq]
    constructor
    · rintro ⟨rfl, rfl⟩
      simp
      omega
    · rintro ⟨rfl, rfl⟩
      simp

/-- A byte for a value of an enumeration. -/
theorem enum_iff {α : Type} {ofRaw : UInt8 → Option α} {raw : α → UInt8}
    (h : ∀ byte a, ofRaw byte = some a ↔ byte = raw a) (input rest : List UInt8) (a : α) :
    Reader.enum ofRaw input = some (a, rest) ↔ input = Writer.u8 (raw a) ++ rest := by
  unfold Reader.enum
  simp only [bind_iff, u8_iff]
  constructor
  · rintro ⟨byte, middle, rfl, hlift⟩
    obtain ⟨hb, rfl⟩ := (lift_iff _ _ _ _).1 hlift
    rw [(h _ _).1 hb]
  · rintro rfl
    exact ⟨_, _, rfl, (lift_iff _ _ _ _).2 ⟨(h _ _).2 rfl, rfl⟩⟩

/-! ## Enumerations -/

theorem System.ofRaw_iff (byte : UInt8) (a : System) : ofRaw byte = some a ↔ byte = a.raw := by
  constructor
  · intro h
    unfold ofRaw at h
    split at h <;> cases h <;> rfl
  · rintro rfl
    cases a <;> rfl

theorem ReceiverState.ofRaw_iff (byte : UInt8) (a : ReceiverState) :
    ofRaw byte = some a ↔ byte = a.raw := by
  constructor
  · intro h
    unfold ofRaw at h
    split at h <;> cases h <;> rfl
  · rintro rfl
    cases a <;> rfl

theorem ShareMode.ofRaw_iff (byte : UInt8) (a : ShareMode) :
    ofRaw byte = some a ↔ byte = a.raw := by
  constructor
  · intro h
    unfold ofRaw at h
    split at h <;> cases h <;> rfl
  · rintro rfl
    cases a <;> rfl

theorem Disposition.ofRaw_iff (byte : UInt8) (a : Disposition) :
    ofRaw byte = some a ↔ byte = a.raw := by
  constructor
  · intro h
    unfold ofRaw at h
    split at h <;> cases h <;> rfl
  · rintro rfl
    cases a <;> rfl

theorem DeviceEventKind.ofRaw_iff (byte : UInt8) (a : DeviceEventKind) :
    ofRaw byte = some a ↔ byte = a.raw := by
  constructor
  · intro h
    unfold ofRaw at h
    split at h <;> cases h <;> rfl
  · rintro rfl
    cases a <;> rfl

theorem EventTargetType.ofRaw_iff (byte : UInt8) (a : EventTargetType) :
    ofRaw byte = some a ↔ byte = a.raw := by
  constructor
  · intro h
    unfold ofRaw at h
    split at h <;> cases h <;> rfl
  · rintro rfl
    cases a <;> rfl

theorem ErrorCode.ofRaw_iff (word : UInt32) (a : ErrorCode) :
    ofRaw word = some a ↔ word = a.raw := by
  constructor
  · intro h
    unfold ofRaw at h
    split at h <;> cases h <;> rfl
  · rintro rfl
    cases a <;> rfl

/-! ## Lengths in front -/

theorem readAtr_iff (input rest atr : List UInt8) :
    readAtr input = some (atr, rest) ↔
      validAtr atr = true ∧ input = Writer.bytes8 atr ++ rest := by
  unfold readAtr Writer.bytes8 validAtr
  simp only [bind_iff, u8_iff, guard_iff, bytes_iff]
  constructor
  · rintro ⟨length, _, rfl, _, _, ⟨hle, rfl⟩, hlen, rfl⟩
    refine ⟨by simpa [hlen] using hle, ?_⟩
    simp [hlen]
  · rintro ⟨hle, rfl⟩
    have hle : atr.length ≤ kMaxAtrLength := by simpa using hle
    have hlen : (UInt8.ofNat atr.length).toNat = atr.length := by
      simp only [UInt8.toNat_ofNat', Nat.reducePow]
      exact Nat.mod_eq_of_lt (Nat.lt_of_le_of_lt hle (by decide))
    exact ⟨_, _, List.append_assoc _ _ _, (), _, ⟨by rw [hlen]; exact hle, rfl⟩, hlen.symm, rfl⟩

theorem readCardBytes_iff (input rest data : List UInt8) :
    readCardBytes input = some (data, rest) ↔
      data.length ≤ kMaxCardPayload ∧ input = Writer.bytes32 data ++ rest := by
  unfold readCardBytes Writer.bytes32
  simp only [bind_iff, u32_iff, guard_iff, bytes_iff]
  constructor
  · rintro ⟨length, _, rfl, _, _, ⟨hle, rfl⟩, hlen, rfl⟩
    refine ⟨hlen ▸ hle, ?_⟩
    simp [hlen]
  · rintro ⟨hle, rfl⟩
    have hlen : (UInt32.ofNat data.length).toNat = data.length := by
      simp only [UInt32.toNat_ofNat', Nat.reducePow]
      exact Nat.mod_eq_of_lt (Nat.lt_of_le_of_lt hle (by decide))
    exact ⟨_, _, List.append_assoc _ _ _, (), _, ⟨by rw [hlen]; exact hle, rfl⟩, hlen.symm, rfl⟩

/-- Text with its length in front. -/
theorem bytes16_iff (input rest text : List UInt8) :
    (∃ (length : UInt16) (middle : List UInt8), input = Writer.u16 length ++ middle ∧
        text.length = length.toNat ∧ middle = text ++ rest) ↔
      text.length ≤ 0xffff ∧ input = Writer.bytes16 text ++ rest := by
  unfold Writer.bytes16
  constructor
  · rintro ⟨length, _, rfl, hlen, rfl⟩
    have hlt := length.toNat_lt
    refine ⟨by omega, ?_⟩
    simp [hlen]
  · rintro ⟨hle, rfl⟩
    have hlen : (UInt16.ofNat text.length).toNat = text.length := by
      simp only [UInt16.toNat_ofNat', Nat.reducePow]
      omega
    exact ⟨_, _, List.append_assoc _ _ _, hlen.symm, rfl⟩

/-! ## Decoders -/

theorem decode_iff {α : Type} (reader : Reader α) (input : ByteView) (value : α) :
    decode reader input = .ok value ↔
      validView input = true ∧ reader input.bytes = some (value, []) := by
  unfold decode
  cases validView input with
  | false => simp
  | true =>
    simp only [Bool.not_true, Bool.false_eq_true, if_false, true_and]
    split
    · next v h =>
      have h : reader input.bytes = some (v, []) := h
      simp [h]
    · next h => exact iff_of_false nofun fun he => h value he

/-- The decoder accepts exactly the payloads that its values are written as. -/
def Accepts {α : Type} (decode : ByteView → Result α) (Ok : α → Prop) (write : α → List UInt8) :
    Prop :=
  ∀ input value, decode input = .ok value ↔
    validView input = true ∧ Ok value ∧ input.bytes = write value

theorem accepts_of_grammar {α : Type} {reader : Reader α} {Ok : α → Prop}
    {write : α → List UInt8} (h : Grammar reader Ok write) : Accepts (decode reader) Ok write := by
  intro input value
  rw [decode_iff, h, List.append_nil]

end Px4.Ipc
