import Px4.It930x.Control

/-!
# Frames of commands and answers

* `request_eq`: what is sent, and `decodeRequest_encodeRequest`: what it says.
* `payloadOf_iff`: an answer is accepted exactly if it is the frame of its payload.
* `Call.Fits.transact`: all that a transaction can do.
* `transactions`: sequences of transactions.
-/

namespace Px4.It930x

open Lib (Program)
open Lib.Oracle (Later)

/-! ## Checksums -/

theorem pair_toNat (high low : UInt8) : (pair high low).toNat = high.toNat * 256 + low.toNat := by
  have hhigh := high.toNat_lt
  have hlow := low.toNat_lt
  unfold pair
  simp only [UInt16.toNat_or, UInt16.toNat_shiftLeft, UInt8.toNat_toUInt16]
  rw [show (UInt16.toNat 8 % 16) = 8 from rfl, Nat.mod_eq_of_lt,
    ← Nat.shiftLeft_add_eq_or_of_lt hlow,
    Nat.shiftLeft_eq]
  rw [Nat.shiftLeft_eq]
  omega

/-- The high byte of a word. -/
def highByte (sum : UInt16) : UInt8 := (sum >>> 8).toUInt8

/-- The low byte of a word. -/
def lowByte (sum : UInt16) : UInt8 := sum.toUInt8

theorem highByte_toNat (sum : UInt16) : (highByte sum).toNat = sum.toNat / 256 := by
  have hlt := sum.toNat_lt
  unfold highByte
  simp only [UInt16.toNat_toUInt8, UInt16.toNat_shiftRight]
  rw [show (UInt16.toNat 8 % 16) = 8 from rfl, Nat.shiftRight_eq_div_pow]
  omega

theorem lowByte_toNat (sum : UInt16) : (lowByte sum).toNat = sum.toNat % 256 :=
  UInt16.toNat_toUInt8 sum

/-- A word is the pair of its bytes, and of no others. -/
theorem pair_iff (high low : UInt8) (sum : UInt16) :
    sum = pair high low ↔ high = highByte sum ∧ low = lowByte sum := by
  have hlow := low.toNat_lt
  rw [← UInt16.toNat_inj, ← UInt8.toNat_inj, ← UInt8.toNat_inj, pair_toNat, highByte_toNat,
    lowByte_toNat]
  omega

/-- The sum of the words of a byte string, the last one padded. -/
def words : List UInt8 → UInt16
  | high :: low :: rest => pair high low + words rest
  | [high] => pair high 0
  | [] => 0

/-- The checksum of a byte string. -/
def checksumOf (values : List UInt8) : UInt16 := ~~~(words values)

theorem byteAt_append (before : List UInt8) (value : UInt8) (rest : List UInt8) :
    byteAt (before ++ value :: rest) before.length = .ok value := by
  simp [byteAt, defined]

/-- The loop sums the words of the part that it is given. -/
theorem sumFrom_eq (before values after : List UInt8) (sum : UInt16) :
    sumFrom (byteAt (before ++ values ++ after)) before.length values.length sum =
      .ok (sum + words values) := by
  induction values using words.induct generalizing before sum with
  | case1 high low rest ih =>
    have hhigh : byteAt (before ++ high :: low :: rest ++ after) before.length = .ok high := by
      rw [List.append_assoc]
      exact byteAt_append _ _ _
    have hlow : byteAt (before ++ high :: low :: rest ++ after) (before.length + 1) = .ok low := by
      have h := byteAt_append (before ++ [high]) low (rest ++ after)
      simpa using h
    have hnext := ih (before ++ [high, low]) (sum + pair high low)
    rw [List.length_append, List.append_assoc before [high, low]] at hnext
    rw [List.length_cons, List.length_cons, sumFrom, hhigh, hlow]
    refine hnext.trans ?_
    rw [words, UInt16.add_assoc]
  | case2 high =>
    have hhigh : byteAt (before ++ [high] ++ after) before.length = .ok high := by
      rw [List.append_assoc]
      exact byteAt_append _ _ _
    rw [List.length_singleton, sumFrom, hhigh]
    rfl
  | case3 =>
    rw [List.length_nil, sumFrom, words, UInt16.add_zero]
    rfl

/-- The checksum of a part of a byte string. -/
theorem checksum_eq (before values after : List UInt8) :
    checksum (byteAt (before ++ values ++ after)) before.length values.length =
      .ok (checksumOf values) := by
  unfold checksum
  rw [sumFrom_eq, UInt16.zero_add]
  rfl

/-! ## Requests -/

/-- The request. -/
def encodeRequest (command : UInt16) (sequence : UInt8) (payload : List UInt8) : List UInt8 :=
  let body := highByte command :: lowByte command :: sequence :: payload
  UInt8.ofNat (payload.length + 5) :: body ++
    [highByte (checksumOf body), lowByte (checksumOf body)]

theorem request_eq (command : UInt16) (sequence : UInt8) (payload : List UInt8) :
    request command sequence payload = .ok (encodeRequest command sequence payload) := by
  have hsum := checksum_eq [UInt8.ofNat (payload.length + 5)]
    (highByte command :: lowByte command :: sequence :: payload) []
  rw [List.append_nil] at hsum
  unfold request
  dsimp only
  refine (congrArg (· >>= _) hsum).trans ?_
  rfl

@[simp] theorem encodeRequest_length (command : UInt16) (sequence : UInt8) (payload : List UInt8) :
    (encodeRequest command sequence payload).length = payload.length + 6 := by
  simp [encodeRequest]

/-- The command, the sequence number and the payload of a request. -/
def decodeRequest : List UInt8 → Option (UInt16 × UInt8 × List UInt8)
  | length :: high :: low :: sequence :: rest =>
    let payload := rest.take (rest.length - 2)
    let body := high :: low :: sequence :: payload
    if length.toNat = rest.length + 3 ∧
        rest.drop (rest.length - 2) = [highByte (checksumOf body), lowByte (checksumOf body)] then
      some (pair high low, sequence, payload)
    else none
  | _ => none

/-- **A request says what it is made of.** -/
theorem decodeRequest_encodeRequest (command : UInt16) (sequence : UInt8) {payload : List UInt8}
    (h : payload.length ≤ kMaxCommandPayload) :
    decodeRequest (encodeRequest command sequence payload) = some (command, sequence, payload) := by
  have hpair : pair (highByte command) (lowByte command) = command :=
    ((pair_iff _ _ _).2 ⟨rfl, rfl⟩).symm
  simp [encodeRequest, decodeRequest, hpair]
  exact Nat.lt_succ_of_le h

/-! ## Answers -/

/-- The answer with that payload to the request with that sequence number. -/
def encodeResponse (sequence : UInt8) (payload : List UInt8) : List UInt8 :=
  let body := sequence :: 0 :: payload
  UInt8.ofNat (payload.length + 4) :: body ++
    [highByte (checksumOf body), lowByte (checksumOf body)]

@[simp] theorem encodeResponse_length (sequence : UInt8) (payload : List UInt8) :
    (encodeResponse sequence payload).length = payload.length + 5 := by
  simp [encodeResponse]

/-- The bytes of an answer that is not too short. -/
theorem response_cases {response : List UInt8} (h : 5 ≤ response.length) :
    ∃ length sequence status payload high low,
      response = length :: sequence :: status :: (payload ++ [high, low]) := by
  match response, h with
  | length :: sequence :: status :: rest, h =>
    have hrest : 2 ≤ rest.length := by simpa using h
    obtain ⟨high, low, htail⟩ : ∃ high low, rest.drop (rest.length - 2) = [high, low] := by
      refine List.length_eq_two.1 ?_
      rw [List.length_drop]
      omega
    exact ⟨length, sequence, status, rest.take (rest.length - 2), high, low, by
      rw [← htail, List.take_append_drop]⟩

/-- The checks of an answer that is not too short; every byte that they read is there. -/
theorem payloadOf_eq (sequence length answered status high low : UInt8) (payload : List UInt8) :
    payloadOf sequence (length :: answered :: status :: (payload ++ [high, low])) =
      if length = 0 then .error (.failure .protocolError)
      else if payload.length + 5 < length.toNat + 1 then .error (.failure .usbIo)
      else if payload.length + 5 ≠ length.toNat + 1 then .error (.failure .protocolError)
      else if checksumOf (answered :: status :: payload) ≠ pair high low ∨ answered ≠ sequence then
        .error (.failure .protocolError)
      else if status ≠ 0 then .error (.failure .usbIo)
      else .ok payload := by
  generalize hresponse : length :: answered :: status :: (payload ++ [high, low]) = response
  have hsize : response.length = payload.length + 5 := by
    subst hresponse
    simp
  have hzero : byteAt response 0 = .ok length := by
    subst hresponse
    rfl
  have hone : byteAt response 1 = .ok answered := by
    subst hresponse
    rfl
  have htwo : byteAt response 2 = .ok status := by
    subst hresponse
    rfl
  have hhigh : byteAt response (response.length - 2) = .ok high := by
    have h := byteAt_append (length :: answered :: status :: payload) high [low]
    rw [hsize]
    simpa [← hresponse] using h
  have hlow : byteAt response (response.length - 1) = .ok low := by
    have h := byteAt_append (length :: answered :: status :: payload ++ [high]) low []
    rw [hsize]
    simpa [← hresponse] using h
  have hsum : checksum (byteAt response) 1 (response.length - 3) =
      .ok (checksumOf (answered :: status :: payload)) := by
    have h := checksum_eq [length] (answered :: status :: payload) [high, low]
    rw [hsize]
    simpa [← hresponse] using h
  have hpayload : (response.drop 3).take (response.length - 5) = payload := by
    rw [hsize]
    simp [← hresponse]
  unfold payloadOf
  dsimp only
  rw [if_neg (by rw [hsize, kResponseOverhead]; omega), hzero, ok_bind, hsum,
    ok_bind, hhigh, ok_bind,
    hlow, ok_bind, hone, ok_bind, htwo, ok_bind, kResponseOverhead, hpayload, hsize]
  rfl

theorem payloadOf_short {sequence : UInt8} {response : List UInt8} (h : response.length < 5) :
    payloadOf sequence response = .error (.failure .protocolError) := if_pos h

/-- **An answer is accepted exactly if it is the frame of its payload**, with this request's number.
-/
theorem payloadOf_iff {sequence : UInt8} {response payload : List UInt8}
    (h : response.length ≤ 256) :
    payloadOf sequence response = .ok payload ↔ response = encodeResponse sequence payload := by
  by_cases hshort : response.length < 5
  · rw [payloadOf_short hshort]
    refine iff_of_false nofun ?_
    rintro rfl
    rw [encodeResponse_length] at hshort
    omega
  obtain ⟨length, answered, status, values, high, low, rfl⟩ :=
    @response_cases response (by omega)
  have hvalues : values.length + 5 ≤ 256 := by
    simp only [List.length_cons, List.length_append, List.length_nil] at h
    omega
  rw [payloadOf_eq]
  constructor
  · intro hok
    split_ifs at hok with _ _ hlength hsum hstatus
    rw [Except.ok.injEq] at hok
    subst hok
    rw [not_or, not_not, not_not] at hsum
    rw [not_not] at hlength hstatus
    obtain ⟨hhigh, hlow⟩ := (pair_iff _ _ _).1 hsum.1
    have hbyte : length = UInt8.ofNat (values.length + 4) := by
      rw [← UInt8.toNat_inj, UInt8.toNat_ofNat']
      omega
    rw [hbyte, hhigh, hlow, hsum.2, hstatus]
    rfl
  · intro heq
    unfold encodeResponse at heq
    dsimp only at heq
    simp only [List.cons_append, List.cons.injEq] at heq
    obtain ⟨hlength, hanswered, hstatus, htail⟩ := heq
    obtain ⟨hpayload, hsum⟩ := List.append_inj' htail rfl
    simp only [List.cons.injEq, and_true] at hsum
    subst hpayload hanswered hstatus
    have hbyte : length.toNat = values.length + 4 := by
      rw [hlength, UInt8.toNat_ofNat']
      omega
    have hzero : length ≠ 0 := by
      intro hzero
      rw [hzero] at hbyte
      simp at hbyte
    have hpair := (pair_iff _ _ _).2 hsum
    rw [if_neg hzero, if_neg (by omega), if_neg (by omega), if_neg (by simp [hpair]),
      if_neg (by simp)]

/-- No byte outside the answer is read. -/
theorem payloadOf_defined (sequence : UInt8) (response : List UInt8) :
    payloadOf sequence response ≠ .error .undefined := by
  by_cases hshort : response.length < 5
  · rw [payloadOf_short hshort]
    nofun
  · obtain ⟨length, answered, status, payload, high, low, rfl⟩ :=
      @response_cases response (by omega)
    rw [payloadOf_eq]
    split_ifs <;> nofun

/-! ## Transactions -/

theorem exec_get (c : CommandState) : (get : Control CommandState).exec c = (.ok c, c) := rfl

theorem exec_modify (f : CommandState → CommandState) (c : CommandState) :
    (modify f : Control PUnit).exec c = (.ok ⟨⟩, f c) := rfl

theorem exec_transfer (q : Usb) (c : CommandState) :
    (Control.transfer q).exec c =
      (.ok (c.transport.ask q).2, { c with transport := (c.transport.ask q).1 }) := rfl

theorem exec_fail {α : Type} (e : Error) (c : CommandState) :
    (Control.fail e : Control α).exec c = (.error (.failure e), c) := rfl

theorem exec_lift {α : Type} (x : Except Stop α) (c : CommandState) :
    (Control.lift x).exec c = (x, c) := by
  cases x <;> rfl

/-- A transfer with what has come of it. -/
abbrev Transfer := Sigma Usb.Answer

/-- The transfers of a transaction that sends `frame`, and its result. -/
inductive Exchange (frame : List UInt8) (sequence : UInt8) :
    List Transfer → Except Stop (List UInt8) → Prop
  | unwritten {written : Result Nat} {e : Error} (h : written ≠ .ok frame.length) :
    Exchange frame sequence [⟨.bulkWrite frame, written⟩] (.error (.failure e))
  | unread {e : Error} : Exchange frame sequence
      [⟨.bulkWrite frame, .ok frame.length⟩, ⟨.bulkRead 256, .error e⟩] (.error (.failure e))
  | answered {response : { values : List UInt8 // values.length ≤ 256 }} : Exchange frame sequence
      [⟨.bulkWrite frame, .ok frame.length⟩, ⟨.bulkRead 256, .ok response⟩]
      (payloadOf sequence response.val)

/-- A frame out, and the answer to it in. -/
def exchange (frame : List UInt8) (sequence : UInt8) : Control (List UInt8) := do
  match ← Control.transfer (.bulkWrite frame) with
  | .error e => Control.fail e
  | .ok written =>
    if written ≠ frame.length then Control.fail .usbIo
    else
      match ← Control.transfer (.bulkRead (kMaxCommandPayload + kFrameOverhead)) with
      | .error e => Control.fail e
      | .ok response => Control.lift (payloadOf sequence response.val)

theorem exchange_spec (frame : List UInt8) (sequence : UInt8) (c : CommandState) :
    ∃ new, Exchange frame sequence new ((exchange frame sequence).exec c).1 ∧
      ((exchange frame sequence).exec c).2.transport.log = c.transport.log ++ new ∧
      ((exchange frame sequence).exec c).2.transport.answer = c.transport.answer ∧
      ((exchange frame sequence).exec c).2.sequence = c.sequence := by
  unfold exchange
  rw [Program.exec_bind, exec_transfer]
  have hlog := Lib.Oracle.ask_log c.transport (.bulkWrite frame)
  have hanswer := Lib.Oracle.ask_answer c.transport (.bulkWrite frame)
  generalize c.transport.ask (.bulkWrite frame) = asked at hlog hanswer ⊢
  obtain ⟨transport, written⟩ := asked
  dsimp only at hlog hanswer ⊢
  by_cases hwritten : written = .ok frame.length
  · subst hwritten
    dsimp only
    rw [if_neg (by simp), Program.exec_bind, exec_transfer]
    have hlog' := Lib.Oracle.ask_log transport (.bulkRead (kMaxCommandPayload + kFrameOverhead))
    have hanswer' := Lib.Oracle.ask_answer transport
      (.bulkRead (kMaxCommandPayload + kFrameOverhead))
    generalize transport.ask (.bulkRead (kMaxCommandPayload + kFrameOverhead)) = asked
      at hlog' hanswer' ⊢
    obtain ⟨transport', read⟩ := asked
    dsimp only at hlog' hanswer' ⊢
    rw [hlog, List.append_assoc] at hlog'
    cases read with
    | error e => exact ⟨_, .unread, hlog', hanswer'.trans hanswer, rfl⟩
    | ok response =>
      dsimp only
      rw [exec_lift]
      exact ⟨_, .answered, hlog', hanswer'.trans hanswer, rfl⟩
  · cases written with
    | error e => exact ⟨_, .unwritten hwritten, hlog, hanswer, rfl⟩
    | ok written =>
      dsimp only
      rw [if_pos (by simpa using hwritten)]
      exact ⟨_, .unwritten hwritten, hlog, hanswer, rfl⟩

/-- The request of a call. -/
def Call.frame (call : Call) (sequence : UInt8) : List UInt8 :=
  encodeRequest call.command sequence call.payload.bytes

theorem Call.Fits.bytes_length {call : Call} (h : call.Fits) :
    call.payload.bytes.length = call.payload.size := by
  unfold ByteView.bytes
  cases hdata : call.payload.data with
  | none =>
    obtain hzero | hne := h.2
    · rw [hzero]
      rfl
    · exact absurd hdata hne
  | some values => exact call.payload.size_eq values hdata

/-- **All that a transaction can do.** -/
theorem Call.Fits.transact {call : Call} (h : call.Fits) (c : CommandState) :
    ∃ new, Exchange (call.frame c.sequence) c.sequence new (call.transact c).1 ∧
      (call.transact c).2.transport.log = c.transport.log ++ new ∧
      (call.transact c).2.transport.answer = c.transport.answer ∧
      (call.transact c).2.sequence = c.sequence + 1 := by
  have hguard : ¬(kMaxCommandPayload < call.payload.size ∨
      (call.payload.size ≠ 0 ∧ call.payload.data = none)) := by
    obtain ⟨hsize, hdata⟩ := h
    rw [not_or, not_and_or, not_not]
    exact ⟨by omega, hdata⟩
  have hlength : (call.frame c.sequence).length = call.payload.size + 6 := by
    rw [Call.frame, encodeRequest_length, h.bytes_length]
  have hexec : call.transact c =
      (exchange (call.frame c.sequence) c.sequence).exec { c with sequence := c.sequence + 1 } := by
    unfold Call.transact transactLocked exchange
    rw [if_neg hguard, hlength]
    simp only [Program.exec_bind, exec_get, exec_modify, exec_lift, request_eq]
    rfl
  rw [hexec]
  exact exchange_spec _ _ _

/-- A call that does not fit does nothing. -/
theorem Call.transact_refused {call : Call} (h : ¬call.Fits) (c : CommandState) :
    call.transact c = (.error (.failure .invalidArgument), c) := by
  have hguard : kMaxCommandPayload < call.payload.size ∨
      (call.payload.size ≠ 0 ∧ call.payload.data = none) := by
    unfold Call.Fits at h
    rw [not_and_or, not_or, not_not] at h
    exact h.imp (fun h => by omega) id
  unfold Call.transact transactLocked
  rw [if_pos hguard]
  rfl

/-! ## Sequences of transactions -/

/-- The frames that have been sent. -/
def requests (transfers : List Transfer) : List (List UInt8) :=
  transfers.filterMap fun transfer =>
    match transfer with
    | ⟨.bulkWrite frame, _⟩ => some frame
    | ⟨.bulkRead _, _⟩ => none

theorem Exchange.requests {frame : List UInt8} {sequence : UInt8} {new : List Transfer}
    {result : Except Stop (List UInt8)} (h : Exchange frame sequence new result) :
    It930x.requests new = [frame] := by
  cases h <;> rfl

/-- What a transaction returns depends on its transfers as it should. -/
theorem Exchange.result_iff {frame : List UInt8} {sequence : UInt8} {new : List Transfer}
    {result : Except Stop (List UInt8)} (h : Exchange frame sequence new result)
    (payload : List UInt8) :
    result = .ok payload ↔ ∃ response, response.val = encodeResponse sequence payload ∧
      new = [⟨.bulkWrite frame, .ok frame.length⟩, ⟨.bulkRead 256, .ok response⟩] := by
  cases h with
  | unwritten h =>
    refine iff_of_false nofun ?_
    rintro ⟨response, -, h⟩
    simp at h
  | unread =>
    refine iff_of_false nofun ?_
    rintro ⟨response, -, h⟩
    simp at h
  | @answered response =>
    rw [payloadOf_iff response.property]
    constructor
    · intro h
      exact ⟨response, h, rfl⟩
    · rintro ⟨response', h, heq⟩
      simp only [List.cons.injEq, Sigma.mk.injEq, heq_eq_eq, Except.ok.injEq, true_and,
        and_true] at heq
      rw [heq, h]

/-- A transaction reads no byte outside the answer. -/
theorem Exchange.defined {frame : List UInt8} {sequence : UInt8} {new : List Transfer}
    {result : Except Stop (List UInt8)} (h : Exchange frame sequence new result) :
    result ≠ .error .undefined := by
  cases h with
  | unwritten => nofun
  | unread => nofun
  | answered => exact payloadOf_defined _ _

/-- What a request says of the call that it is for. -/
def Call.said (call : Call) (sequence : UInt8) : Option (UInt16 × UInt8 × List UInt8) :=
  some (call.command, sequence, call.payload.bytes)

/-- The calls that fit reach the transport, one request each, with consecutive sequence numbers. -/
theorem transactAll_spec (calls : List Call) (c : CommandState) :
    (transactAll calls c).sequence = c.sequence + UInt8.ofNat (calls.filter Call.Fits).length ∧
      ∃ new, (transactAll calls c).transport.log = c.transport.log ++ new ∧
        (requests new).map decodeRequest =
          (calls.filter Call.Fits).mapIdx fun i call => call.said (c.sequence + UInt8.ofNat i) := by
  induction calls generalizing c with
  | nil => exact ⟨(UInt8.add_zero _).symm, [], (List.append_nil _).symm, rfl⟩
  | cons call calls ih =>
    by_cases hfits : call.Fits
    · obtain ⟨first, hexchange, hlog, -, hsequence⟩ := hfits.transact c
      obtain ⟨hlast, new, hnew, hrequests⟩ := ih (call.transact c).2
      have hnumber (n : Nat) : c.sequence + 1 + UInt8.ofNat n = c.sequence +
          UInt8.ofNat (n + 1) := by
        rw [UInt8.ofNat_add, UInt8.add_assoc, UInt8.add_comm (UInt8.ofNat n)]
        rfl
      have hframe : decodeRequest (call.frame c.sequence) = call.said c.sequence :=
        decodeRequest_encodeRequest _ _ (hfits.bytes_length ▸ hfits.1)
      rw [List.filter_cons_of_pos (by simpa using hfits)]
      refine ⟨?_, first ++ new, ?_, ?_⟩
      · rw [transactAll, hlast, hsequence, List.length_cons, hnumber]
      · rw [transactAll, hnew, hlog, List.append_assoc]
      · rw [requests, List.filterMap_append, ← requests, ← requests,
          hexchange.requests, List.map_append,
          hrequests, hsequence, List.mapIdx_cons]
        simp [hframe, hnumber]
    · rw [List.filter_cons_of_neg (by simpa using hfits), transactAll, Call.transact_refused hfits]
      exact ih c

/-- **Sequences of transactions.** The requests say what the calls were made with, numbered one
after the other; after any of them, a transaction returns a payload exactly if all of the request
has been written and the answer is the frame of that payload, and any other answer is an error, with
no read outside of it. -/
theorem transactions (calls : List Call) (c : CommandState) :
    (∃ new, (transactAll calls c).transport.log = c.transport.log ++ new ∧
      (requests new).map decodeRequest =
        (calls.filter Call.Fits).mapIdx fun i call => call.said (c.sequence + UInt8.ofNat i)) ∧
    ∀ before call after, calls = before ++ call :: after →
      let reached := transactAll before c
      (call.Fits → ∃ new,
        (call.transact reached).2.transport.log = reached.transport.log ++ new ∧
        (∀ payload, (call.transact reached).1 = .ok payload ↔
          ∃ response, response.val = encodeResponse reached.sequence payload ∧
            new = [⟨.bulkWrite (call.frame reached.sequence),
              .ok (call.frame reached.sequence).length⟩,
              ⟨.bulkRead 256, .ok response⟩]) ∧
        (call.transact reached).1 ≠ .error .undefined) ∧
      (¬call.Fits → call.transact reached = (.error (.failure .invalidArgument), reached)) := by
  refine ⟨(transactAll_spec calls c).2, ?_⟩
  rintro before call after -
  refine ⟨fun hfits => ?_, fun hfits => Call.transact_refused hfits _⟩
  obtain ⟨new, hexchange, hlog, -, -⟩ := hfits.transact (transactAll before c)
  exact ⟨new, hlog, hexchange.result_iff, hexchange.defined⟩

end Px4.It930x
