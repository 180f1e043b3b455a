import Px4.Ipc.Proof.Wire

/-!
# The payloads there and back

`RoundTrip` of an encoder and a decoder: what is encoded is decoded again, and what is decoded is
encoded again to the same bytes. It follows from what the decoder accepts (`Accepts.roundTrip`); the
lemmas `*_accepts` say this of every payload type.
-/

namespace Px4.Ipc

open Lib (Grammar)
open Lib.Parser (bind_iff pure_iff guard_iff lift_iff)

/-! ## Round trips -/

theorem prepareOutput_iff (output : Output) (required : Nat) :
    prepareOutput output required = .ok () ↔
      output.valid = true ∧ required ≤ output.size := by
  unfold prepareOutput
  cases output.valid with
  | false => simp
  | true =>
    simp only [Bool.not_true, Bool.false_eq_true, if_false, true_and]
    split
    · next h => exact iff_of_false nofun (by omega)
    · next h => exact iff_of_true rfl (by omega)

theorem encode_iff (valid : Bool) (required : Nat) (written w : List UInt8) (output : Output) :
    encode valid required written output = .ok w ↔
      valid = true ∧ output.valid = true ∧ required ≤ output.size ∧ w = written := by
  unfold encode
  cases valid with
  | false => simp
  | true =>
    have hp := prepareOutput_iff output required
    simp only [Bool.not_true, Bool.false_eq_true, if_false, true_and]
    rcases hx : prepareOutput output required with e | ⟨⟩
    · rw [hx] at hp
      refine iff_of_false nofun ?_
      rintro ⟨hv, hr, -⟩
      cases hp.2 ⟨hv, hr⟩
    · rw [hx] at hp
      simp [hp.1 rfl, eq_comm]

theorem bytes_length_of_valid {input : ByteView} (h : validView input = true) :
    input.bytes.length = input.size := by
  obtain ⟨_ | data, size, hsize⟩ := input
  · have hz : size = 0 := by simpa [validView] using h
    simp [ByteView.bytes, hz]
  · exact hsize data rfl

/-- An encoder and a decoder of one payload type. `Typed` is what the source's types say of a value,
and `kept` is the part of it that is on the wire. -/
structure RoundTrip {α : Type} (Typed : α → Prop) (kept : α → α)
    (enc : α → Output → Result (List UInt8)) (dec : ByteView → Result α) : Prop where
  decode_encode : ∀ value output written, Typed value → enc value output = .ok written →
    dec (.of written) = .ok (kept value)
  encode_decode : ∀ input value output, dec input = .ok value → output.valid = true →
    input.size ≤ output.size → enc value output = .ok input.bytes

/-- **Round trips**, from what the decoder accepts. -/
theorem Accepts.roundTrip {α : Type} {Typed : α → Prop} {valid : α → Bool} {required : α → Nat}
    {write : α → List UInt8} {dec : ByteView → Result α}
    (h : Accepts dec (fun value => Typed value ∧ valid value = true) write)
    (hlen : ∀ value, Typed value → valid value = true → (write value).length = required value) :
    RoundTrip Typed id (fun value => encode (valid value) (required value) (write value)) dec := by
  constructor
  · intro value output written ht he
    obtain ⟨hv, -, -, rfl⟩ := (encode_iff _ _ _ _ _).1 he
    exact (h _ _).2 ⟨by simp [validView], ⟨ht, hv⟩, rfl⟩
  · intro input value output hd hout hsize
    obtain ⟨hview, ⟨ht, hv⟩, hbytes⟩ := (h _ _).1 hd
    refine (encode_iff _ _ _ _ _).2 ⟨hv, hout, ?_, hbytes⟩
    rw [← hlen value ht hv, ← hbytes, bytes_length_of_valid hview]
    exact hsize

/-- A decoder that first looks at the size of its input. -/
theorem accepts_of_limit {α : Type} {reader : Reader α} {write : α → List UInt8} (limit : Nat)
    (Ok : α → Prop) (h : Grammar reader Ok write) :
    Accepts (fun input => if input.size > limit then .error .protocolError
        else decode reader input)
      (fun value => Ok value ∧ (write value).length ≤ limit) write := by
  intro input value
  have hd := accepts_of_grammar h input value
  dsimp only
  split
  · next hgt =>
    refine iff_of_false nofun ?_
    rintro ⟨hv, ⟨-, hle⟩, hb⟩
    rw [← hb, bytes_length_of_valid hv] at hle
    omega
  · next hle =>
    rw [hd]
    constructor
    · rintro ⟨hv, hok, hb⟩
      refine ⟨hv, ⟨hok, ?_⟩, hb⟩
      rw [← hb, bytes_length_of_valid hv]
      omega
    · rintro ⟨hv, ⟨hok, -⟩, hb⟩
      exact ⟨hv, hok, hb⟩

theorem Accepts.congr {α : Type} {dec : ByteView → Result α} {Ok Ok' : α → Prop}
    {write : α → List UInt8} (h : Accepts dec Ok write) (hok : ∀ value, Ok value ↔ Ok' value) :
    Accepts dec Ok' write := by
  intro input value
  rw [h, hok]

/-! ## Payload types -/

theorem empty_accepts : Accepts decodeEmptyPayload (fun _ => True ∧ true = true) fun _ => [] := by
  intro input value
  unfold decodeEmptyPayload
  cases hv : validView input with
  | false => simp
  | true =>
    have hlen := bytes_length_of_valid hv
    by_cases hz : input.size = 0
    · simp [hz, List.eq_nil_iff_length_eq_zero, hlen]
    · simp [hz, List.eq_nil_iff_length_eq_zero, hlen]

theorem helloRequest_accepts :
    Accepts decodeHelloRequestPayload
      (fun value => True ∧ decide (value.minMajor < value.maxMajor ∨
        value.minMajor = value.maxMajor ∧ value.minMinor ≤ value.maxMinor) = true)
      HelloRequestPayload.write := by
  refine accepts_of_grammar fun input value rest => ?_
  simp only [bind_iff, u16_iff, u32_iff, guard_iff, pure_iff]
  grind [HelloRequestPayload.write]

theorem helloResponse_accepts :
    Accepts decodeHelloResponsePayload
      (fun value => True ∧ (value.major == kProtocolMajor && value.minor == kProtocolMinor) = true)
      HelloResponsePayload.write := by
  refine accepts_of_grammar fun input value rest => ?_
  simp only [bind_iff, u16_iff, u32_iff, guard_iff, pure_iff]
  grind [HelloResponsePayload.write]

theorem acquireRequest_accepts :
    Accepts decodeAcquireRequestPayload
      (fun value => True ∧ decide (value.receiverId.toNat < kReceiverCount) = true)
      fun value => Writer.u8 value.receiverId := by
  refine accepts_of_grammar fun input value rest => ?_
  simp only [bind_iff, u8_iff, guard_iff, pure_iff]
  grind

theorem acquireResponse_accepts :
    Accepts decodeAcquireResponsePayload
      (fun value => value.nonce.length = kNonceLength ∧ true = true)
      fun value => Writer.u64 value.leaseId ++ value.nonce := by
  refine accepts_of_grammar fun input value rest => ?_
  simp only [bind_iff, u64_iff, bytes_iff, pure_iff]
  grind

theorem leaseRequest_accepts :
    Accepts decodeLeaseRequestPayload (fun _ => True ∧ true = true)
      fun value => Writer.u64 value.leaseId := by
  refine accepts_of_grammar fun input value rest => ?_
  simp only [bind_iff, u64_iff, pure_iff]
  grind

theorem cardHandleRequest_accepts :
    Accepts decodeCardHandleRequestPayload (fun _ => True ∧ true = true)
      fun value => Writer.u64 value.cardHandle := by
  refine accepts_of_grammar fun input value rest => ?_
  simp only [bind_iff, u64_iff, pure_iff]
  grind

/-- The decoder of TUNE asks for less than `valid_tune`. -/
theorem tuneRequest_accepts :
    Accepts decodeTuneRequestPayload
      (fun value => validSystem value.system = true ∧
        (value.lnbVoltage = 0 ∨ value.lnbVoltage = 15))
      TuneRequestPayload.write := by
  refine accepts_of_grammar fun input value rest => ?_
  simp only [bind_iff, u8_iff, u16_iff, u32_iff, u64_iff, enum_iff System.ofRaw_iff, guard_iff,
    pure_iff]
  grind [TuneRequestPayload.write]

theorem tuneResponse_accepts :
    Accepts decodeTuneResponsePayload
      (fun value => IsI32 value.cnrMdb ∧ validBoolean value.locked = true)
      fun value => Writer.u8 value.locked ++ Writer.i32 value.cnrMdb := by
  refine accepts_of_grammar fun input value rest => ?_
  simp only [bind_iff, u8_iff, i32_iff, guard_iff, pure_iff]
  grind

theorem readCounters_grammar : Grammar readCounters (fun _ => True) CountersPayload.write := by
  intro input value rest
  unfold readCounters
  simp only [bind_iff, u64_iff, pure_iff]
  grind [CountersPayload.write]

theorem counters_accepts :
    Accepts decodeCountersPayload (fun _ => True ∧ true = true) CountersPayload.write := by
  refine accepts_of_grammar fun input value rest => ?_
  rw [readCounters_grammar input value rest]
  simp

theorem cardStatusResponse_accepts :
    Accepts decodeCardStatusResponsePayload
      (fun value => True ∧
        (validBoolean value.present && validBoolean value.initialized && validAtr value.atr &&
          !(value.initialized == 0 && value.atr.length != 0) &&
          !(value.initialized != 0 && (value.present == 0 || value.atr.length == 0))) = true)
      fun value => Writer.u8 value.present ++ Writer.u8 value.initialized ++
        Writer.u64 value.readerGeneration ++ Writer.bytes8 value.atr := by
  refine accepts_of_grammar fun input value rest => ?_
  simp only [bind_iff, u8_iff, u64_iff, readAtr_iff, guard_iff, pure_iff]
  grind

theorem cardConnectRequest_accepts :
    Accepts decodeCardConnectRequestPayload (fun _ => True ∧ true = true)
      fun value => Writer.u8 value.shareMode.raw := by
  refine accepts_of_grammar fun input value rest => ?_
  simp only [bind_iff, enum_iff ShareMode.ofRaw_iff, pure_iff]
  grind

theorem cardConnectResponse_accepts :
    Accepts decodeCardConnectResponsePayload (fun value => True ∧ validAtr value.atr = true)
      fun value => Writer.u64 value.cardHandle ++ Writer.bytes8 value.atr := by
  refine accepts_of_grammar fun input value rest => ?_
  simp only [bind_iff, u64_iff, readAtr_iff, pure_iff]
  grind

theorem cardReconnectRequest_accepts :
    Accepts decodeCardReconnectRequestPayload (fun _ => True ∧ true = true)
      fun value => Writer.u64 value.cardHandle ++ Writer.u8 value.shareMode.raw ++
        Writer.u8 value.disposition.raw := by
  refine accepts_of_grammar fun input value rest => ?_
  simp only [bind_iff, u64_iff, enum_iff ShareMode.ofRaw_iff, enum_iff Disposition.ofRaw_iff,
    pure_iff]
  grind

theorem atr_accepts :
    Accepts decodeAtrPayload (fun value => True ∧ validAtr value.atr = true)
      fun value => Writer.bytes8 value.atr := by
  refine accepts_of_grammar fun input value rest => ?_
  simp only [bind_iff, readAtr_iff, pure_iff]
  grind

theorem cardDispositionRequest_accepts :
    Accepts decodeCardDispositionRequestPayload (fun _ => True ∧ true = true)
      fun value => Writer.u64 value.cardHandle ++ Writer.u8 value.disposition.raw := by
  refine accepts_of_grammar fun input value rest => ?_
  simp only [bind_iff, u64_iff, enum_iff Disposition.ofRaw_iff, pure_iff]
  grind

theorem cardTransmitRequest_accepts :
    Accepts decodeCardTransmitRequestPayload
      (fun value => True ∧ decide (value.apdu.length ≤ kMaxCardPayload) = true)
      fun value => Writer.u64 value.cardHandle ++ Writer.bytes32 value.apdu := by
  refine accepts_of_grammar fun input value rest => ?_
  simp only [bind_iff, u64_iff, readCardBytes_iff, pure_iff]
  grind

theorem cardTransmitResponse_accepts :
    Accepts decodeCardTransmitResponsePayload
      (fun value => True ∧ decide (value.response.length ≤ kMaxCardPayload) = true)
      fun value => Writer.bytes32 value.response := by
  refine accepts_of_grammar fun input value rest => ?_
  simp only [bind_iff, readCardBytes_iff, pure_iff]
  grind

theorem attachStreamRequest_accepts :
    Accepts decodeAttachStreamRequestPayload
      (fun value => value.nonce.length = kNonceLength ∧ true = true)
      fun value => Writer.u64 value.leaseId ++ value.nonce := by
  refine accepts_of_grammar fun input value rest => ?_
  simp only [bind_iff, u64_iff, bytes_iff, pure_iff]
  grind

theorem deviceEvent_accepts :
    Accepts decodeDeviceEventPayload
      (fun value => True ∧ validEventTarget value.targetType value.targetId = true)
      fun value => Writer.u64 value.generation ++ Writer.u8 value.kind.raw ++
        Writer.u8 value.targetType.raw ++ Writer.u8 value.targetId := by
  refine accepts_of_grammar fun input value rest => ?_
  simp only [bind_iff, u8_iff, u64_iff, enum_iff DeviceEventKind.ofRaw_iff,
    enum_iff EventTargetType.ofRaw_iff, guard_iff, pure_iff]
  grind

theorem streamEnd_accepts :
    Accepts decodeStreamEndEventPayload (fun _ => True ∧ true = true)
      fun value => value.counters.write ++ Writer.u32 value.errorCode.raw := by
  refine accepts_of_grammar fun input value rest => ?_
  simp only [bind_iff, readCounters_grammar _ _ _, u32_iff, lift_iff, ErrorCode.ofRaw_iff, pure_iff]
  grind

theorem tsData_accepts :
    Accepts decodeTsDataEventPayload
      (fun value => True ∧
        (decide (value.bytes.length ≤ kMaxTsBytes) && value.bytes.length % 188 == 0) = true)
      fun value => Writer.u64 value.sequence ++ Writer.u64 value.cumulativeDropCount ++
        Writer.bytes32 value.bytes := by
  refine accepts_of_grammar fun input value rest => ?_
  simp only [bind_iff, u64_iff, u32_iff, bytes_iff, guard_iff, pure_iff]
  constructor
  · rintro ⟨_, _, rfl, _, _, rfl, length, _, rfl, _, _, ⟨⟨hle, hmod⟩, rfl⟩, _, _, ⟨hlen, rfl⟩, rfl,
      rfl⟩
    have hmod : length.toNat % 188 = 0 := by
      simpa using congrArg UInt32.toNat hmod
    simp [Writer.bytes32, hlen, hle, hmod]
  · rintro ⟨⟨-, hv⟩, rfl⟩
    simp only [Bool.and_eq_true, decide_eq_true_eq, beq_iff_eq] at hv
    have hlen : (UInt32.ofNat value.bytes.length).toNat = value.bytes.length := by
      simp only [UInt32.toNat_ofNat', Nat.reducePow]
      exact Nat.mod_eq_of_lt (Nat.lt_of_le_of_lt hv.1 (by decide))
    refine ⟨value.sequence, _, by simp only [List.append_assoc]; rfl, value.cumulativeDropCount, _,
      rfl, UInt32.ofNat value.bytes.length, _, List.append_assoc _ _ _, (), _, ⟨⟨?_, ?_⟩, rfl⟩,
      value.bytes, _, ⟨hlen.symm, rfl⟩, rfl, rfl⟩
    · rw [hlen]
      exact hv.1
    · rw [← UInt32.toNat_inj, UInt32.toNat_mod, hlen]
      exact hv.2

theorem errorResponse_accepts :
    Accepts decodeErrorResponsePayload
      (fun value => True ∧
        (value.errorCode != .ok && validUtf8 value.detailUtf8 &&
          decide (value.detailUtf8.length ≤ 0xffff) &&
          decide (value.detailUtf8.length ≤ kMaxControlPayload - 6)) = true)
      fun value => Writer.u32 value.errorCode.raw ++ Writer.bytes16 value.detailUtf8 := by
  refine (accepts_of_limit kMaxControlPayload (fun value : ErrorResponsePayload =>
    value.errorCode ≠ .ok ∧ validUtf8 value.detailUtf8 = true ∧ value.detailUtf8.length ≤ 0xffff)
    fun input value rest => ?_).congr fun value => ?_
  · simp only [bind_iff, u32_iff, u16_iff, bytes_iff, lift_iff, ErrorCode.ofRaw_iff, guard_iff,
      pure_iff]
    constructor
    · rintro ⟨_, _, rfl, length, middle, rfl, text, _, ⟨hlen, rfl⟩, _, _, ⟨hu, rfl⟩, code, _,
        ⟨rfl, rfl⟩, _, _, ⟨hok, rfl⟩, rfl, rfl⟩
      obtain ⟨hle, hw⟩ := (bytes16_iff _ _ _).1 ⟨length, _, rfl, hlen, rfl⟩
      refine ⟨⟨hok, hu, hle⟩, ?_⟩
      rw [hw, List.append_assoc]
    · rintro ⟨⟨hok, hu, hle⟩, rfl⟩
      obtain ⟨length, middle, hw, hlen, rfl⟩ := (bytes16_iff _ rest _).2 ⟨hle, rfl⟩
      exact ⟨_, _, List.append_assoc _ _ _, length, _, hw, _, _, ⟨hlen, rfl⟩, (), _, ⟨hu, rfl⟩,
        _, _, ⟨rfl, rfl⟩, (), _, ⟨hok, rfl⟩, rfl, rfl⟩
  · simp [Writer.bytes16, Writer.u16, Writer.u32, kMaxControlPayload]
    grind

theorem readReceiverRecord_grammar (count : UInt8) (index : Nat) :
    Grammar (readReceiverRecord count index)
      (fun record => validReceiverRecord record count index = true) ReceiverRecord.write := by
  intro input value rest
  unfold readReceiverRecord ReceiverRecord.write
  simp only [bind_iff, u8_iff, enum_iff System.ofRaw_iff, guard_iff, pure_iff]
  constructor
  · rintro ⟨_, _, rfl, _, _, rfl, _, _, rfl, _, _, rfl, _, _, ⟨hv, rfl⟩, rfl, rfl⟩
    exact ⟨hv, by simp only [List.append_assoc]⟩
  · rintro ⟨hv, rfl⟩
    exact ⟨_, _, rfl, _, _, rfl, _, _, rfl, _, _, rfl, (), _, ⟨hv, rfl⟩, rfl, rfl⟩

/-- Records that are each valid at their index. -/
theorem forall₂_range_iff {α : Type} (p : Nat → α → Bool) (n : Nat) (values : List α) :
    List.Forall₂ (fun i a => p i a = true) (List.range n) values ↔
      values.length = n ∧ (values.zipIdx.all fun a => p a.2 a.1) = true := by
  rw [List.forall₂_iff_get]
  simp only [List.length_range, List.get_eq_getElem, List.getElem_range, List.all_eq_true,
    List.mem_zipIdx_iff_getElem?, Prod.forall]
  constructor
  · rintro ⟨rfl, h⟩
    refine ⟨rfl, fun a i hi => ?_⟩
    obtain ⟨hlt, rfl⟩ := List.getElem?_eq_some_iff.1 hi
    exact h i hlt hlt
  · rintro ⟨rfl, h⟩
    exact ⟨rfl, fun i _ hlt => h _ i (List.getElem?_eq_getElem hlt)⟩

theorem status_accepts :
    Accepts decodeStatusResponsePayload
      (fun value => value.receiverStates.length = kReceiverCount ∧
        (validBoolean value.ready && validBoolean value.cardPresent &&
          validBoolean value.cardInitialized &&
          value.usbPresentMask &&& ~~~kUsbPresentMask == 0) = true)
      StatusResponsePayload.write := by
  refine accepts_of_grammar fun input value rest => ?_
  have hstates : Grammar
      ((List.range kReceiverCount).mapM fun _ => Reader.enum ReceiverState.ofRaw)
      (fun states => states.length = kReceiverCount)
      (·.flatMap fun state => Writer.u8 state.raw) := by
    intro input states rest
    have hone : ∀ _ : Nat, Grammar (Reader.enum ReceiverState.ofRaw) (fun _ => True)
        fun state => Writer.u8 state.raw := by
      intro _ input state rest
      rw [enum_iff ReceiverState.ofRaw_iff, true_and]
    rw [Grammar.mapM hone, List.forall₂_iff_get]
    simp [eq_comm]
  simp only [bind_iff, u8_iff, u64_iff, hstates _ _ _, guard_iff, pure_iff]
  grind [StatusResponsePayload.write]

theorem ListResponsePayload.records_of_length {value : ListResponsePayload}
    (h : value.receivers.length = min value.receiverCount.toNat kReceiverCount) :
    value.records = value.receivers := by
  unfold records
  rw [← h, List.take_length]

theorem flatMap_write_length (records : List ReceiverRecord) :
    (records.flatMap ReceiverRecord.write).length = 4 * records.length := by
  induction records with
  | nil => rfl
  | cons record records ih =>
    rw [List.flatMap_cons, List.length_append, ih, List.length_cons]
    simp only [ReceiverRecord.write, Writer.u8, List.length_append, List.length_singleton]
    omega

theorem ListResponsePayload.write_length {value : ListResponsePayload}
    (h : value.receivers.length = min value.receiverCount.toNat kReceiverCount)
    (hcount : validReceiverCount value.receiverCount = true) :
    value.write.length = 14 + 4 * value.receiverCount.toNat + value.serialUtf8.length := by
  have hle : value.receiverCount.toNat ≤ kReceiverCount := by
    simp only [validReceiverCount, Bool.or_eq_true, beq_iff_eq] at hcount
    rcases hcount with (((h | h) | h) | h) | h <;> rw [h] <;> decide
  unfold write
  rw [records_of_length h]
  simp only [List.length_append, flatMap_write_length, h, Nat.min_eq_left hle, Writer.u8,
    Writer.u64, Writer.bytes16, Writer.u16, Lib.bytes64_length, Lib.bytes16_length,
    List.length_singleton]
  omega

theorem list_accepts :
    Accepts decodeListResponsePayload
      (fun value => value.receivers.length = min value.receiverCount.toNat kReceiverCount ∧
        (validUtf8 value.serialUtf8 && decide (value.serialUtf8.length ≤ 0xffff) &&
          validBoolean value.ready && value.usbPresentMask &&& ~~~kUsbPresentMask == 0 &&
          validReceiverCount value.receiverCount &&
          value.usbPresentMask &&& ~~~usbPresentMaskFor value.receiverCount == 0 &&
          (value.records.zipIdx.all fun record =>
            validReceiverRecord record.1 value.receiverCount record.2) &&
          decide (14 + 4 * value.receiverCount.toNat + value.serialUtf8.length ≤
            kMaxControlPayload)) = true)
      ListResponsePayload.write := by
  refine (accepts_of_limit kMaxControlPayload (fun value : ListResponsePayload =>
    value.receivers.length = min value.receiverCount.toNat kReceiverCount ∧
      validUtf8 value.serialUtf8 = true ∧ value.serialUtf8.length ≤ 0xffff ∧
      (validBoolean value.ready = true ∧ value.usbPresentMask &&& ~~~kUsbPresentMask = 0 ∧
        validReceiverCount value.receiverCount = true ∧
        value.usbPresentMask &&& ~~~usbPresentMaskFor value.receiverCount = 0) ∧
      (value.receivers.zipIdx.all fun record =>
        validReceiverRecord record.1 value.receiverCount record.2) = true)
    fun input value rest => ?_).congr fun value => ?_
  · have hrecords : ∀ count : UInt8, Grammar
        ((List.range (min count.toNat kReceiverCount)).mapM (readReceiverRecord count)) _ _ :=
      fun count => Grammar.mapM (readReceiverRecord_grammar count) _
    simp only [bind_iff, u8_iff, u16_iff, u64_iff, bytes_iff, hrecords _ _ _ _, guard_iff, pure_iff,
      forall₂_range_iff fun i record => validReceiverRecord record _ i]
    constructor
    · rintro ⟨generation, _, rfl, length, _, rfl, text, _, ⟨hlen, rfl⟩, _, _, ⟨hu, rfl⟩, ready, _,
        rfl, mask, _, rfl, count, _, rfl, _, _, rfl, _, _,
        ⟨⟨hready, hmask, hcount, rfl, hfor⟩, rfl⟩, records, _, ⟨⟨hn, hall⟩, rfl⟩, rfl, rfl⟩
      obtain ⟨hle, hw⟩ := (bytes16_iff _ _ text).1 ⟨length, _, rfl, hlen, rfl⟩
      refine ⟨⟨hn, hu, hle, ⟨hready, hmask, hcount, hfor⟩, hall⟩, ?_⟩
      have hrecords : (ListResponsePayload.mk generation text ready mask records count).records =
          records := ListResponsePayload.records_of_length hn
      rw [hw]
      simp only [ListResponsePayload.write, hrecords, List.append_assoc]
    · rintro ⟨⟨hn, hu, hle, ⟨hready, hmask, hcount, hfor⟩, hall⟩, rfl⟩
      obtain ⟨length, middle, hw, hlen, hmiddle⟩ := (bytes16_iff _ _ _).2 ⟨hle, rfl⟩
      simp only [ListResponsePayload.write, ListResponsePayload.records_of_length hn,
        List.append_assoc]
      exact ⟨_, _, rfl, length, _, hw, _, _, ⟨hlen, hmiddle⟩, (), _, ⟨hu, rfl⟩,
        _, _, rfl, _, _, rfl,
        _, _, rfl, _, _, rfl, (), _, ⟨⟨hready, hmask, hcount, rfl, hfor⟩, rfl⟩, _, _,
        ⟨⟨hn, hall⟩, rfl⟩, rfl, rfl⟩
  · simp only [Bool.and_eq_true, decide_eq_true_eq, beq_iff_eq]
    constructor
    · rintro ⟨⟨hn, hu, hle, ⟨hready, hmask, hcount, hfor⟩, hall⟩, hlen⟩
      rw [ListResponsePayload.write_length hn hcount] at hlen
      rw [ListResponsePayload.records_of_length hn]
      exact ⟨hn, ⟨⟨⟨⟨⟨⟨⟨hu, hle⟩, hready⟩, hmask⟩, hcount⟩, hfor⟩, hall⟩, hlen⟩⟩
    · rintro ⟨hn, ⟨⟨⟨⟨⟨⟨⟨hu, hle⟩, hready⟩, hmask⟩, hcount⟩, hfor⟩, hall⟩, hlen⟩⟩
      rw [ListResponsePayload.write_length hn hcount]
      rw [ListResponsePayload.records_of_length hn] at hall
      exact ⟨⟨hn, hu, hle, ⟨hready, hmask, hcount, hfor⟩, hall⟩, hlen⟩

end Px4.Ipc
