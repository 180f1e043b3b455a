import Px4.Ipc.Proof.Payload

/-!
# The wire format there and back

`PayloadType` is the list of the payload types, each with its encoder and its decoder. A frame that
is decoded is encoded again to its bytes, a frame that is encoded is decoded again, and so it is
with the payloads (`wire_round_trip`).
-/

namespace Px4.Ipc

/-- The payload types of `ipc.hpp`. -/
inductive PayloadType
  | empty | helloRequest | helloResponse | listResponse | statusResponse
  | acquireRequest | acquireResponse | leaseRequest | cardHandleRequest | tuneRequest | tuneResponse
  | counters | cardStatusResponse | cardConnectRequest | cardConnectResponse | cardReconnectRequest
  | atr | cardDispositionRequest | cardTransmitRequest | cardTransmitResponse | attachStreamRequest
  | tsDataEvent | deviceEvent | streamEndEvent | errorResponse
  deriving DecidableEq, Repr

namespace PayloadType

def Value : PayloadType → Type
  | empty => Unit
  | helloRequest => HelloRequestPayload
  | helloResponse => HelloResponsePayload
  | listResponse => ListResponsePayload
  | statusResponse => StatusResponsePayload
  | acquireRequest => AcquireRequestPayload
  | acquireResponse => AcquireResponsePayload
  | leaseRequest => LeaseRequestPayload
  | cardHandleRequest => CardHandleRequestPayload
  | tuneRequest => TuneRequestPayload
  | tuneResponse => TuneResponsePayload
  | counters => CountersPayload
  | cardStatusResponse => CardStatusResponsePayload
  | cardConnectRequest => CardConnectRequestPayload
  | cardConnectResponse => CardConnectResponsePayload
  | cardReconnectRequest => CardReconnectRequestPayload
  | atr => AtrPayload
  | cardDispositionRequest => CardDispositionRequestPayload
  | cardTransmitRequest => CardTransmitRequestPayload
  | cardTransmitResponse => CardTransmitResponsePayload
  | attachStreamRequest => AttachStreamRequestPayload
  | tsDataEvent => TsDataEventPayload
  | deviceEvent => DeviceEventPayload
  | streamEndEvent => StreamEndEventPayload
  | errorResponse => ErrorResponsePayload

def encode : (t : PayloadType) → t.Value → Output → Result (List UInt8)
  | empty => fun _ => encodeEmptyPayload
  | helloRequest => encodeHelloRequestPayload
  | helloResponse => encodeHelloResponsePayload
  | listResponse => encodeListResponsePayload
  | statusResponse => encodeStatusResponsePayload
  | acquireRequest => encodeAcquireRequestPayload
  | acquireResponse => encodeAcquireResponsePayload
  | leaseRequest => encodeLeaseRequestPayload
  | cardHandleRequest => encodeCardHandleRequestPayload
  | tuneRequest => encodeTuneRequestPayload
  | tuneResponse => encodeTuneResponsePayload
  | counters => encodeCountersPayload
  | cardStatusResponse => encodeCardStatusResponsePayload
  | cardConnectRequest => encodeCardConnectRequestPayload
  | cardConnectResponse => encodeCardConnectResponsePayload
  | cardReconnectRequest => encodeCardReconnectRequestPayload
  | atr => encodeAtrPayload
  | cardDispositionRequest => encodeCardDispositionRequestPayload
  | cardTransmitRequest => encodeCardTransmitRequestPayload
  | cardTransmitResponse => encodeCardTransmitResponsePayload
  | attachStreamRequest => encodeAttachStreamRequestPayload
  | tsDataEvent => encodeTsDataEventPayload
  | deviceEvent => encodeDeviceEventPayload
  | streamEndEvent => encodeStreamEndEventPayload
  | errorResponse => encodeErrorResponsePayload

def decode : (t : PayloadType) → ByteView → Result t.Value
  | empty => decodeEmptyPayload
  | helloRequest => decodeHelloRequestPayload
  | helloResponse => decodeHelloResponsePayload
  | listResponse => decodeListResponsePayload
  | statusResponse => decodeStatusResponsePayload
  | acquireRequest => decodeAcquireRequestPayload
  | acquireResponse => decodeAcquireResponsePayload
  | leaseRequest => decodeLeaseRequestPayload
  | cardHandleRequest => decodeCardHandleRequestPayload
  | tuneRequest => decodeTuneRequestPayload
  | tuneResponse => decodeTuneResponsePayload
  | counters => decodeCountersPayload
  | cardStatusResponse => decodeCardStatusResponsePayload
  | cardConnectRequest => decodeCardConnectRequestPayload
  | cardConnectResponse => decodeCardConnectResponsePayload
  | cardReconnectRequest => decodeCardReconnectRequestPayload
  | atr => decodeAtrPayload
  | cardDispositionRequest => decodeCardDispositionRequestPayload
  | cardTransmitRequest => decodeCardTransmitRequestPayload
  | cardTransmitResponse => decodeCardTransmitResponsePayload
  | attachStreamRequest => decodeAttachStreamRequestPayload
  | tsDataEvent => decodeTsDataEventPayload
  | deviceEvent => decodeDeviceEventPayload
  | streamEndEvent => decodeStreamEndEventPayload
  | errorResponse => decodeErrorResponsePayload

/-- What the types of the source say of a value: its arrays have their lengths, and a
`std::int32_t` is in its range. -/
def Typed : (t : PayloadType) → t.Value → Prop
  | listResponse => fun value : ListResponsePayload => value.receivers.length = kReceiverCount
  | statusResponse => fun value : StatusResponsePayload =>
    value.receiverStates.length = kReceiverCount
  | acquireResponse => fun value : AcquireResponsePayload => value.nonce.length = kNonceLength
  | attachStreamRequest => fun value : AttachStreamRequestPayload =>
    value.nonce.length = kNonceLength
  | tuneResponse => fun value : TuneResponsePayload => IsI32 value.cnrMdb
  | _ => fun _ => True

/-- The part of a value that is on the wire: of a LIST, its records. -/
def kept : (t : PayloadType) → t.Value → t.Value
  | listResponse => fun value : ListResponsePayload => { value with receivers := value.records }
  | _ => id

end PayloadType

/-! ## Lengths -/

@[simp] theorem Writer.u8_length (value : UInt8) : (u8 value).length = 1 := rfl

@[simp] theorem Writer.u16_length (value : UInt16) : (u16 value).length = 2 := rfl

@[simp] theorem Writer.u32_length (value : UInt32) : (u32 value).length = 4 := rfl

@[simp] theorem Writer.u64_length (value : UInt64) : (u64 value).length = 8 := rfl

@[simp] theorem Writer.i32_length (value : Int) : (i32 value).length = 4 := rfl

@[simp] theorem Writer.bytes8_length (value : List UInt8) :
    (bytes8 value).length = 1 + value.length := by
  rw [bytes8, List.length_append, u8_length]

@[simp] theorem Writer.bytes16_length (value : List UInt8) :
    (bytes16 value).length = 2 + value.length := by
  rw [bytes16, List.length_append, u16_length]

@[simp] theorem Writer.bytes32_length (value : List UInt8) :
    (bytes32 value).length = 4 + value.length := by
  rw [bytes32, List.length_append, u32_length]

@[simp] theorem CountersPayload.write_length (value : CountersPayload) :
    value.write.length = kCountersPayloadSize := rfl

theorem StatusResponsePayload.write_length {value : StatusResponsePayload}
    (h : value.receiverStates.length = kReceiverCount) : value.write.length = 36 := by
  have hstates : ∀ states : List ReceiverState,
      (states.flatMap fun state => Writer.u8 state.raw).length = states.length := by
    intro states
    rw [List.length_flatMap]
    simp
  simp [write, hstates, h, kReceiverCount]

/-! ## Payloads -/

theorem ListResponsePayload.kept_receivers_length {value : ListResponsePayload}
    (h : value.receivers.length = kReceiverCount) :
    value.records.length = min value.receiverCount.toNat kReceiverCount := by
  rw [records, List.length_take, h, Nat.min_eq_left (Nat.min_le_right _ _)]

/-- An encoder writes the records of a LIST and no others. -/
theorem encodeListResponsePayload_kept (value : ListResponsePayload) :
    encodeListResponsePayload { value with receivers := value.records } =
      encodeListResponsePayload value := by
  have hrecords : ({ value with receivers := value.records } : ListResponsePayload).records =
      value.records := by
    simp only [ListResponsePayload.records, List.take_take, Nat.min_self]
  unfold encodeListResponsePayload ListResponsePayload.write
  rw [hrecords]

theorem listResponse_roundTrip :
    RoundTrip PayloadType.listResponse.Typed PayloadType.listResponse.kept
      PayloadType.listResponse.encode PayloadType.listResponse.decode := by
  have h : RoundTrip
      (fun value : ListResponsePayload =>
        value.receivers.length = min value.receiverCount.toNat kReceiverCount) id
      encodeListResponsePayload decodeListResponsePayload := by
    refine list_accepts.roundTrip fun value hn hv => ?_
    simp only [Bool.and_eq_true] at hv
    exact ListResponsePayload.write_length hn hv.1.1.1.2
  constructor
  · intro value output written ht he
    refine h.decode_encode _ output written (ListResponsePayload.kept_receivers_length ht) ?_
    exact (congrFun (encodeListResponsePayload_kept value) output).trans he
  · exact h.encode_decode

/-- The round trip of every payload type that has both ways. -/
theorem PayloadType.roundTrip (t : PayloadType) (ht : t ≠ .tuneRequest) :
    RoundTrip t.Typed t.kept t.encode t.decode := by
  cases t with
  | empty => exact empty_accepts.roundTrip fun _ _ _ => rfl
  | helloRequest => exact helloRequest_accepts.roundTrip fun _ _ _ => rfl
  | helloResponse => exact helloResponse_accepts.roundTrip fun _ _ _ => rfl
  | listResponse => exact listResponse_roundTrip
  | statusResponse => exact status_accepts.roundTrip fun _ h _ =>
    StatusResponsePayload.write_length h
  | acquireRequest => exact acquireRequest_accepts.roundTrip fun _ _ _ => rfl
  | acquireResponse =>
    exact acquireResponse_accepts.roundTrip fun _ h _ => by simp [h, kNonceLength]
  | leaseRequest => exact leaseRequest_accepts.roundTrip fun _ _ _ => rfl
  | cardHandleRequest => exact cardHandleRequest_accepts.roundTrip fun _ _ _ => rfl
  | tuneRequest => exact absurd rfl ht
  | tuneResponse => exact tuneResponse_accepts.roundTrip fun _ _ _ => rfl
  | counters => exact counters_accepts.roundTrip fun _ _ _ => rfl
  | cardStatusResponse =>
    exact cardStatusResponse_accepts.roundTrip fun _ _ _ => by simp; omega
  | cardConnectRequest => exact cardConnectRequest_accepts.roundTrip fun _ _ _ => rfl
  | cardConnectResponse =>
    exact cardConnectResponse_accepts.roundTrip fun _ _ _ => by simp; omega
  | cardReconnectRequest => exact cardReconnectRequest_accepts.roundTrip fun _ _ _ => rfl
  | atr => exact atr_accepts.roundTrip fun _ _ _ => by simp
  | cardDispositionRequest => exact cardDispositionRequest_accepts.roundTrip fun _ _ _ => rfl
  | cardTransmitRequest => exact cardTransmitRequest_accepts.roundTrip fun _ _ _ => by simp; omega
  | cardTransmitResponse => exact cardTransmitResponse_accepts.roundTrip fun _ _ _ => by simp
  | attachStreamRequest =>
    exact attachStreamRequest_accepts.roundTrip fun _ h _ => by simp [h, kNonceLength]
  | tsDataEvent => exact tsData_accepts.roundTrip fun _ _ _ => by simp; omega
  | deviceEvent => exact deviceEvent_accepts.roundTrip fun _ _ _ => rfl
  | streamEndEvent => exact streamEnd_accepts.roundTrip fun _ _ _ => rfl
  | errorResponse => exact errorResponse_accepts.roundTrip fun _ _ _ => by simp; omega

/-! ## Headers -/

open Lib.Parser (bind_iff pure_iff)

theorem RawHeader.read_iff (input rest : List UInt8) (raw : RawHeader) :
    RawHeader.read input = some (raw, rest) ↔ input = raw.write ++ rest := by
  unfold RawHeader.read RawHeader.write
  simp only [bind_iff, u16_iff, u32_iff, pure_iff]
  constructor
  · rintro ⟨_, _, rfl, _, _, rfl, _, _, rfl, _, _, rfl, _, _, rfl, _, _, rfl, rfl, rfl⟩
    simp only [List.append_assoc]
  · rintro rfl
    simp only [List.append_assoc]
    exact ⟨_, _, rfl, _, _, rfl, _, _, rfl, _, _, rfl, _, _, rfl, _, _, rfl, rfl, rfl⟩

theorem MessageType.ofRaw_iff (word : UInt16) (type : MessageType)
    (hknown : isKnownMessageType type = true) : ofRaw word = type ↔ word = type.raw := by
  constructor
  · intro h
    unfold ofRaw at h
    split at h <;> subst h <;> rfl
  · rintro rfl
    cases type <;> first | rfl | cases hknown

/-- The flags of the protocol are the last two bits. -/
theorem flags_cases {flags : UInt16} (h : flags &&& ~~~kKnownFlags = 0) :
    flags = 0 ∨ flags = kResponseFlag ∨ flags = kErrorFlag ∨
      flags = kResponseFlag ||| kErrorFlag := by
  have hn : flags.toNat &&& 65532 = 0 := by
    simpa [kKnownFlags, kResponseFlag, kErrorFlag] using congrArg UInt16.toNat h
  have hs : (flags.toNat &&& 65532) >>> 2 = flags.toNat / 4 % 16384 := by
    rw [Nat.shiftRight_and_distrib, Nat.shiftRight_eq_div_pow]
    exact Nat.and_two_pow_sub_one_eq_mod _ 14
  have hlt := flags.toNat_lt
  rw [hn, Nat.zero_shiftRight] at hs
  simp only [← UInt16.toNat_inj, kResponseFlag, kErrorFlag]
  have : flags.toNat < 4 := by omega
  simp
  omega

/-- The fields of a header on the wire. -/
def FrameHeader.rawHeader (header : FrameHeader) : RawHeader where
  major := header.major
  minor := header.minor
  type := header.type.raw
  flags := header.kind.flags
  requestId := header.requestId
  payloadLength := header.payloadLength

/-- What `validate_header_fields` asks for. -/
structure FrameHeader.Valid (header : FrameHeader) : Prop where
  known : isKnownMessageType header.type = true
  major : header.major = kProtocolMajor
  minor : header.minor = kProtocolMinor
  limit : header.payloadLength.toNat ≤ payloadLimit header.type
  event : isEventMessage header.type = true → header.kind = .event ∧ header.requestId = 0
  noEvent : isEventMessage header.type = false → header.kind ≠ .event

theorem validateHeaderFields_iff (header : FrameHeader) (error : Error) :
    validateHeaderFields header error = .ok () ↔ header.Valid := by
  unfold validateHeaderFields
  constructor
  · intro h
    split at h
    · cases h
    · next hf =>
      simp only [Bool.or_eq_true, Bool.not_eq_true', bne_iff_ne, decide_eq_true_eq, not_or,
        Bool.not_eq_false, not_not, Nat.not_lt, gt_iff_lt] at hf
      obtain ⟨⟨⟨hk, hmaj⟩, hmin⟩, hl⟩ := hf
      cases he : isEventMessage header.type with
      | true =>
        rw [he, if_pos rfl] at h
        split at h
        · cases h
        · next hr =>
          rw [not_or, not_not, not_not] at hr
          exact ⟨hk, hmaj, hmin, hl, fun _ => hr, fun hc => absurd (he.symm.trans hc) nofun⟩
      | false =>
        refine ⟨hk, hmaj, hmin, hl, fun hc => absurd (he.symm.trans hc) nofun, fun _ hc => ?_⟩
        simp [he, hc] at h
  · rintro ⟨hk, hmaj, hmin, hl, hev, hno⟩
    rw [if_neg (by simp [hk, hmaj, hmin, hl])]
    cases he : isEventMessage header.type with
    | true => simp [hev he]
    | false =>
      have := hno he
      cases hkind : header.kind <;> simp_all

@[simp] theorem kindOf_zero (type : MessageType) :
    kindOf type 0 = if isEventMessage type then .event else .request := by
  rw [kindOf, if_neg (by decide), if_neg (by decide)]

@[simp] theorem kindOf_response (type : MessageType) : kindOf type kResponseFlag = .response := by
  rw [kindOf, if_neg (by decide), if_pos rfl]

@[simp] theorem kindOf_errorResponse (type : MessageType) :
    kindOf type (kResponseFlag ||| kErrorFlag) = .errorResponse := by
  rw [kindOf, if_pos rfl]

/-- The flags stand for the kind, of the headers that `validate_header_fields` accepts. -/
theorem FrameHeader.Valid.kindOf_flags {header : FrameHeader} (h : header.Valid) :
    kindOf header.type header.kind.flags = header.kind := by
  cases he : isEventMessage header.type with
  | true =>
    obtain ⟨hkind, -⟩ := h.event he
    simp [hkind, MessageKind.flags, he]
  | false =>
    have hno := h.noEvent he
    cases hkind : header.kind with
    | event => exact absurd hkind hno
    | request => simp [MessageKind.flags, he]
    | response => simp [MessageKind.flags]
    | errorResponse => simp [MessageKind.flags]

theorem RawHeader.header_iff (raw : RawHeader) (header : FrameHeader) :
    raw.header = .ok header ↔ header.Valid ∧ raw = header.rawHeader := by
  unfold RawHeader.header
  constructor
  · intro h
    split at h
    · cases h
    · next hversion =>
      rw [not_or, not_not, not_not] at hversion
      dsimp only at h
      split at h
      · cases h
      · next hflags =>
        simp only [not_or, not_not, Bool.not_eq_true', Bool.not_eq_false] at hflags
        split at h
        · cases h
        · next hv =>
          have hval := (validateHeaderFields_iff _ _).1 hv
          cases h
          refine ⟨hval, ?_⟩
          have htype : raw.type = (MessageType.ofRaw raw.type).raw :=
            (MessageType.ofRaw_iff _ _ hflags.1).1 rfl
          have hkind : raw.flags = (kindOf (MessageType.ofRaw raw.type) raw.flags).flags := by
            rcases flags_cases hflags.2.1 with h0 | h1 | h2 | h3
            · rw [h0, kindOf_zero]
              cases isEventMessage (MessageType.ofRaw raw.type) <;> rfl
            · rw [h1, kindOf_response, MessageKind.flags]
            · exact absurd h2 hflags.2.2
            · rw [h3, kindOf_errorResponse, MessageKind.flags]
          obtain ⟨major, minor, type, flags, requestId, payloadLength⟩ := raw
          simp only [FrameHeader.rawHeader, ← htype, ← hkind]
  · rintro ⟨hval, rfl⟩
    have htype : MessageType.ofRaw header.type.raw = header.type :=
      (MessageType.ofRaw_iff _ _ hval.known).2 rfl
    have hflags : header.kind.flags &&& ~~~kKnownFlags = 0 ∧ header.kind.flags ≠ kErrorFlag := by
      cases header.kind <;> decide
    simp only [FrameHeader.rawHeader, htype, hval.kindOf_flags]
    rw [if_neg (by simp [hval.major, hval.minor]), if_neg (by simp [hval.known, hflags])]
    rw [(validateHeaderFields_iff header _).2 hval]

theorem FrameHeader.write_length (header : FrameHeader) :
    header.write.length = kFrameHeaderSize := rfl

theorem decodeFrameHeader_iff (bytes : List UInt8) (header : FrameHeader) :
    decodeFrameHeader (.of bytes) = .ok header ↔ header.Valid ∧ bytes = header.write := by
  unfold decodeFrameHeader
  constructor
  · intro h
    split at h
    · cases h
    · split at h
      · cases h
      · next hmagic =>
        split at h
        · next raw hread =>
          rw [not_not] at hmagic
          obtain ⟨hval, rfl⟩ := (RawHeader.header_iff _ _).1 h
          have hread := (RawHeader.read_iff _ _ _).1 hread
          refine ⟨hval, ?_⟩
          rw [← List.take_append_drop 4 bytes]
          exact congrArg₂ _ hmagic (hread.trans (List.append_nil _))
        · cases h
  · rintro ⟨hval, rfl⟩
    have hread : RawHeader.read header.rawHeader.write = some (header.rawHeader, []) :=
      (RawHeader.read_iff _ _ _).2 (List.append_nil _).symm
    have hraw := (RawHeader.header_iff _ _).2 ⟨hval, rfl⟩
    have hmagic : ¬header.write.take 4 ≠ kMagic := not_not.2 rfl
    rw [if_neg (by simp [validView, FrameHeader.write_length]), ByteView.of_bytes, if_neg hmagic]
    have hdrop : header.write.drop 4 = header.rawHeader.write := rfl
    rw [hdrop, hread]
    exact hraw

/-! ## Frames -/

/-- A view that is valid and null has no bytes, as the view of no bytes. -/
theorem validatePayload_of_bytes (type : MessageType) (kind : MessageKind) {payload : ByteView}
    (h : validView payload = true) :
    validatePayload type kind (.of payload.bytes) = validatePayload type kind payload := by
  obtain ⟨_ | data, size, hsize⟩ := payload
  · have hz : size = 0 := by simpa [validView] using h
    subst hz
    rfl
  · have hs : data.length = size := hsize data rfl
    subst hs
    rfl

theorem isOk_iff (r : Result Unit) : r.isOk = true ↔ r = .ok () := by
  cases r <;> simp [Except.isOk, Except.toBool]

/-- **decode_frame**: what it accepts. -/
theorem decodeFrame_iff (frame : ByteView) (view : FrameView) :
    decodeFrame frame = .ok view ↔
      validView frame = true ∧ view.header.Valid ∧
        view.header.payloadLength.toNat = view.payload.size ∧
        validatePayload view.header.type view.header.kind view.payload = .ok () ∧
        view.payload = .of view.payload.bytes ∧
        frame.bytes = view.header.write ++ view.payload.bytes := by
  unfold decodeFrame
  constructor
  · intro h
    split at h
    · cases h
    · next hv =>
      simp only [Bool.or_eq_true, not_or, Bool.not_eq_true', Bool.not_eq_false,
        decide_eq_true_eq, Nat.not_lt] at hv
      have hlen := bytes_length_of_valid hv.1
      split at h
      · cases h
      · next header hd =>
        obtain ⟨hval, hw⟩ := (decodeFrameHeader_iff _ _).1 hd
        split at h
        · cases h
        · next hsize =>
          dsimp only at h
          split at h
          · cases h
          · next hp =>
            rw [Bool.not_eq_true', Bool.not_eq_false, isOk_iff] at hp
            cases h
            refine ⟨hv.1, hval, ?_, hp, rfl, ?_⟩
            · rw [ByteView.of_size, List.length_drop, hlen]
              exact (not_not.1 hsize).symm
            · rw [ByteView.of_bytes, ← hw, List.take_append_drop]
  · rintro ⟨hv, hval, hlen, hp, hof, hb⟩
    obtain ⟨header, payload⟩ := view
    dsimp only at hval hlen hp hof hb
    have hpsize : payload.bytes.length = payload.size := (congrArg ByteView.size hof).symm
    have hsize : frame.size = kFrameHeaderSize + payload.size := by
      rw [← bytes_length_of_valid hv, hb, List.length_append, FrameHeader.write_length, hpsize]
    have htake : frame.bytes.take kFrameHeaderSize = header.write := by
      rw [hb, ← header.write_length, List.take_left]
    have hdrop : frame.bytes.drop kFrameHeaderSize = payload.bytes := by
      rw [hb, ← header.write_length, List.drop_left]
    have hheader : decodeFrameHeader (.of (frame.bytes.take kFrameHeaderSize)) = .ok header :=
      (decodeFrameHeader_iff _ _).2 ⟨hval, htake⟩
    rw [if_neg (by simp [hv, hsize]), hheader]
    dsimp only
    rw [if_neg (by rw [hlen, hsize]; omega), hdrop, ← hof, hp]
    rfl

/-- **encode_frame**: what it accepts, and what it writes. -/
theorem encodeFrame_iff (header : FrameHeader) (payload : ByteView) (output : Output)
    (w : List UInt8) :
    encodeFrame header payload output = .ok w ↔
      (validView payload = true ∧ header.payloadLength.toNat = payload.size ∧ header.Valid ∧
        validatePayload header.type header.kind payload = .ok ()) ∧
      output.valid = true ∧ kFrameHeaderSize + payload.size ≤ output.size ∧
      w = header.write ++ payload.bytes := by
  unfold encodeFrame
  rw [encode_iff]
  simp only [Bool.and_eq_true, beq_iff_eq, isOk_iff, validateHeaderFields_iff, and_assoc]

theorem encodeFrame_decodeFrame {frame : ByteView} {view : FrameView} {output : Output}
    (h : decodeFrame frame = .ok view) (hout : output.valid = true)
    (hroom : frame.size ≤ output.size) :
    encodeFrame view.header view.payload output = .ok frame.bytes := by
  obtain ⟨hv, hval, hlen, hp, hof, hb⟩ := (decodeFrame_iff _ _).1 h
  have hpv : validView view.payload = true := by
    rw [hof]
    simp [validView]
  refine (encodeFrame_iff _ _ _ _).2 ⟨⟨hpv, hlen, hval, hp⟩, hout, ?_, hb⟩
  rw [← bytes_length_of_valid hpv, ← view.header.write_length, ← List.length_append, ← hb,
    bytes_length_of_valid hv]
  exact hroom

theorem decodeFrame_encodeFrame {header : FrameHeader} {payload : ByteView} {output : Output}
    {w : List UInt8} (h : encodeFrame header payload output = .ok w) :
    decodeFrame (.of w) = .ok ⟨header, .of payload.bytes⟩ := by
  obtain ⟨⟨hpv, hlen, hval, hp⟩, -, -, rfl⟩ := (encodeFrame_iff _ _ _ _).1 h
  refine (decodeFrame_iff _ _).2 ⟨by simp [validView], hval, ?_, ?_, rfl, rfl⟩
  · rw [hlen, ByteView.of_size, bytes_length_of_valid hpv]
  · rw [validatePayload_of_bytes _ _ hpv]
    exact hp

/-! ## The format -/

theorem tuneRequest_decode_encode {value : TuneRequestPayload} {output : Output}
    {written : List UInt8} (h : encodeTuneRequestPayload value output = .ok written) :
    decodeTuneRequestPayload (.of written) = .ok value := by
  obtain ⟨hv, -, -, rfl⟩ := (encode_iff _ _ _ _ _).1 h
  refine (tuneRequest_accepts _ _).2 ⟨by simp [validView], ?_, rfl⟩
  unfold validTune at hv
  split at hv
  · cases hv
  · next hr =>
    simp only [Bool.or_eq_true, Bool.and_eq_true, not_or, not_and, Bool.not_eq_true',
      Bool.not_eq_false, bne_iff_ne, not_not, ne_eq] at hr
    exact ⟨hr.1.1.1, or_iff_not_imp_left.2 hr.1.1.2⟩

/-- A TUNE that is decoded is encoded again when its ranges are those of `valid_tune`, and else it
is refused. -/
theorem tuneRequest_encode_decode {input : ByteView} {value : TuneRequestPayload} {output : Output}
    (h : decodeTuneRequestPayload input = .ok value) (hout : output.valid = true)
    (hroom : input.size ≤ output.size) :
    encodeTuneRequestPayload value output =
      if validTune value then .ok input.bytes else .error .invalidArgument := by
  obtain ⟨hview, -, hb⟩ := (tuneRequest_accepts _ _).1 h
  cases hv : validTune value with
  | false => simp [encodeTuneRequestPayload, encode, hv]
  | true =>
    have hlen : value.write.length = 30 := rfl
    rw [if_pos rfl]
    refine (encode_iff _ _ _ _ _).2 ⟨hv, hout, ?_, hb⟩
    rw [← hlen, ← hb, bytes_length_of_valid hview]
    exact hroom

theorem PayloadType.decode_encode (t : PayloadType) {value : t.Value} {output : Output}
    {written : List UInt8} (ht : t.Typed value) (h : t.encode value output = .ok written) :
    t.decode (.of written) = .ok (t.kept value) := by
  by_cases htune : t = .tuneRequest
  · subst htune
    exact tuneRequest_decode_encode h
  · exact (t.roundTrip htune).decode_encode value output written ht h

/-- **Round trip**: of frames both ways, of payloads both ways except TUNE, whose decoder leaves the
ranges to the control service. -/
theorem wire_round_trip :
    (∀ (frame : ByteView) (view : FrameView) (output : Output), decodeFrame frame = .ok view →
      output.valid = true → frame.size ≤ output.size →
        encodeFrame view.header view.payload output = .ok frame.bytes) ∧
    (∀ (header : FrameHeader) (payload : ByteView) (output : Output) (written : List UInt8),
      encodeFrame header payload output = .ok written →
        decodeFrame (.of written) = .ok ⟨header, .of payload.bytes⟩) ∧
    (∀ (t : PayloadType) (value : t.Value) (output : Output) (written : List UInt8),
      t.Typed value → t.encode value output = .ok written →
        t.decode (.of written) = .ok (t.kept value)) ∧
    (∀ (t : PayloadType) (input : ByteView) (value : t.Value) (output : Output),
      t ≠ .tuneRequest → t.decode input = .ok value → output.valid = true →
        input.size ≤ output.size → t.encode value output = .ok input.bytes) ∧
    ∀ (input : ByteView) (value : TuneRequestPayload) (output : Output),
      decodeTuneRequestPayload input = .ok value → output.valid = true →
        input.size ≤ output.size → encodeTuneRequestPayload value output =
          if validTune value then .ok input.bytes else .error .invalidArgument := by
  refine ⟨?_, ?_, ?_, ?_, ?_⟩
  · intro frame view output h hout hroom
    exact encodeFrame_decodeFrame h hout hroom
  · intro header payload output written h
    exact decodeFrame_encodeFrame h
  · intro t value output written ht h
    exact t.decode_encode ht h
  · intro t input value output ht h hout hroom
    exact (t.roundTrip ht).encode_decode input value output h hout hroom
  · intro input value output h hout hroom
    exact tuneRequest_encode_decode h hout hroom

/-- A request for STATUS as a frame; a LIST of one receiver, of which the encoder has eight; a TUNE
of no time, which is decoded and not encoded again. -/
theorem wire_round_trip_status :
    (encodeFrame { type := .status, requestId := 7 } (.of []) ⟨true, 20⟩ =
        .ok [0x50, 0x58, 0x34, 0x55, 1, 0, 0, 0, 0x11, 0, 0, 0, 7, 0, 0, 0, 0, 0, 0, 0] ∧
      decodeFrame
          (.of [0x50, 0x58, 0x34, 0x55, 1, 0, 0, 0, 0x11, 0, 0, 0, 7, 0, 0, 0, 0, 0, 0, 0]) =
        .ok ⟨{ type := .status, requestId := 7 }, .of []⟩) ∧
    decodeListResponsePayload
        (.of [9, 0, 0, 0, 0, 0, 0, 0, 1, 0, 0x41, 1, 1, 1, 1, 0, 1, 0, 1]) =
      .ok ⟨9, [0x41], 1, 1, [⟨0, 1, 0, .isdbT⟩], 1⟩ ∧
    (decodeTuneRequestPayload (.of (TuneRequestPayload.write ⟨1, .isdbT, 2, 3, 4, 5, 15, 0⟩)) =
        .ok ⟨1, .isdbT, 2, 3, 4, 5, 15, 0⟩ ∧
      encodeTuneRequestPayload ⟨1, .isdbT, 2, 3, 4, 5, 15, 0⟩ ⟨true, 30⟩ =
        .error .invalidArgument) := by
  have hframe : encodeFrame { type := .status, requestId := 7 } (.of []) ⟨true, 20⟩ =
      .ok [0x50, 0x58, 0x34, 0x55, 1, 0, 0, 0, 0x11, 0, 0, 0, 7, 0, 0, 0, 0, 0, 0, 0] := by decide
  have htune : decodeTuneRequestPayload
      (.of (TuneRequestPayload.write ⟨1, .isdbT, 2, 3, 4, 5, 15, 0⟩)) =
        .ok ⟨1, .isdbT, 2, 3, 4, 5, 15, 0⟩ := by decide
  obtain ⟨-, hdecode, hpayload, -, hrange⟩ := wire_round_trip
  let list : ListResponsePayload := ⟨9, [0x41], 1, 1, List.replicate 8 ⟨0, 1, 0, .isdbT⟩, 1⟩
  have hlist : encodeListResponsePayload list ⟨true, 64⟩ =
      .ok [9, 0, 0, 0, 0, 0, 0, 0, 1, 0, 0x41, 1, 1, 1, 1, 0, 1, 0, 1] := by decide
  have hkept := hpayload .listResponse list ⟨true, 64⟩ _ List.length_replicate hlist
  exact ⟨⟨hframe, hdecode _ _ _ _ hframe⟩, hkept, htune, hrange _ _ _ htune rfl (by decide)⟩

end Px4.Ipc
