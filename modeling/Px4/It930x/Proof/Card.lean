import Px4.It930x.Proof.Firmware
import Px4.It930x.Card

/-!
# What is sent to and received from a card

* `sendAll_spec`: calls that are sent one after the other, up to the first one that fails.
* `writeFrom_eq`: the loop of `write_card_data` sends the calls for the chunks of its input.
* `Reading`: the transactions of `read_card_data`; `readFrom_iff`: just these are made.
* `card_data`: both functions.
-/

namespace Px4.It930x

open Lib (Program)

/-! ## Calls that are sent -/

/-- Calls that are sent one after the other. -/
def sendAll (calls : List Call) : Control Unit :=
  calls.forM fun call => send call.command call.payload

theorem exec_transactLocked (command : UInt16) (payload : ByteView) (c : CommandState) :
    (transactLocked command payload).exec c = Call.transact ⟨command, payload⟩ c := rfl

/-- A call that is sent. -/
theorem exec_send (call : Call) (c : CommandState) :
    (send call.command call.payload).exec c =
      ((match (call.transact c).1 with
        | .ok answer => if answer ≠ [] then .error (.failure .protocolError) else .ok ()
        | .error stop => .error stop), (call.transact c).2) := by
  unfold send
  rw [Program.exec_bind, exec_transactLocked]
  cases call.transact c with | mk outcome c' =>
  cases outcome with
  | error stop => rfl
  | ok answer =>
    dsimp only
    split <;> rfl

/-- No call reads outside of an answer. -/
theorem Call.transact_defined (call : Call) (c : CommandState) :
    (call.transact c).1 ≠ .error .undefined := by
  by_cases hfits : call.Fits
  · obtain ⟨new, hexchange, -⟩ := hfits.transact c
    exact hexchange.defined
  · rw [Call.transact_refused hfits]
    nofun

/-- **Calls are sent up to the first one that fails.** -/
theorem sendAll_spec (calls : List Call) (c : CommandState) :
    ∃ k ≤ calls.length, ((sendAll calls).exec c).2 = transactAll (calls.take k) c ∧
      AllAnswered (calls.take (k - 1)) c ∧
      (AllAnswered calls c → k = calls.length ∧ ((sendAll calls).exec c).1 = .ok ()) ∧
      (¬AllAnswered calls c → ∃ e, ((sendAll calls).exec c).1 = .error (.failure e)) := by
  induction calls generalizing c with
  | nil => exact ⟨0, Nat.le_refl _, rfl, trivial, fun _ => ⟨rfl, rfl⟩, fun h => (h trivial).elim⟩
  | cons call calls ih =>
    have hexec : (sendAll (call :: calls)).exec c =
        (send call.command call.payload >>= fun _ => sendAll calls).exec c := rfl
    by_cases hanswer : (call.transact c).1 = .ok []
    · rw [hexec, Program.exec_bind, exec_send, hanswer]
      obtain ⟨k, hk, hstate, hbefore, hall, hfailed⟩ := ih (call.transact c).2
      refine ⟨k + 1, Nat.succ_le_succ hk, hstate, ?_, fun h => ?_, fun h => ?_⟩
      · cases k with
        | zero => trivial
        | succ k => exact ⟨hanswer, hbefore⟩
      · obtain ⟨hlast, hok⟩ := hall h.2
        exact ⟨congrArg (· + 1) hlast, hok⟩
      · exact hfailed fun hrest => h ⟨hanswer, hrest⟩
    · have hstop : ∃ e, (send call.command call.payload).exec c =
          (.error (.failure e), (call.transact c).2) := by
        have hdefined := call.transact_defined c
        rw [exec_send]
        cases hresult : (call.transact c).1 with
        | ok answer => exact ⟨.protocolError, by rw [hresult] at hanswer; simpa using hanswer⟩
        | error stop =>
          cases stop with
          | failure e => exact ⟨e, rfl⟩
          | undefined => exact absurd hresult hdefined
      obtain ⟨e, hstop⟩ := hstop
      rw [hexec, Program.exec_bind, hstop]
      refine ⟨1, Nat.succ_le_succ (Nat.zero_le _), ?_, trivial, fun h =>
        absurd h.1 hanswer, fun _ => ⟨e, rfl⟩⟩
      rfl

/-! ## Chunks that are sent -/

/-- The write of a chunk. -/
def Call.ofChunk (chunk : List UInt8) : Call :=
  ⟨kUartWrite, ByteView.of (UInt8.ofNat chunk.length :: chunk)⟩

/-- The write of the register that has the UART send. -/
def Call.realSend : Call :=
  ⟨kRegWrite, ByteView.of (1 :: registerLength kUartRealSend :: putU32Be kUartRealSend ++ [1])⟩

/-- The calls for some chunks: the register is set before the last one. -/
def cardCalls : List (List UInt8) → List Call
  | [] => []
  | [chunk] => [.realSend, .ofChunk chunk]
  | chunk :: chunks => .ofChunk chunk :: cardCalls chunks

/-- The chunks of an input. -/
structure Chunked (chunks : List (List UInt8)) (input : List UInt8) : Prop where
  joined : chunks.flatten = input
  sizes : ∀ chunk ∈ chunks, 0 < chunk.length ∧ chunk.length ≤ 48

theorem writeRealSend_eq : writeRegistersLocked kUartRealSend (ByteView.of [1]) =
    send Call.realSend.command Call.realSend.payload := rfl

theorem partOf_eq {values : List UInt8} {offset size : Nat} (h : offset + size ≤ values.length) :
    partOf values offset size = .ok (ByteView.of ((values.drop offset).take size)) := if_pos h

/-- **The loop of `write_card_data` sends the calls for the chunks of its input.** -/
theorem writeFrom_eq {input : List UInt8} {fuel offset : Nat} (hoffset : offset < input.length)
    (hfuel : input.length - offset < fuel) :
    ∃ chunks, chunks ≠ [] ∧ Chunked chunks (input.drop offset) ∧
      writeFrom input fuel offset = sendAll (cardCalls chunks) := by
  induction fuel generalizing offset with
  | zero => omega
  | succ fuel ih =>
    have hdrop : (input.drop offset).length = input.length - offset := List.length_drop
    unfold writeFrom
    rw [if_pos hoffset]
    dsimp only
    rw [partOf_eq (by omega)]
    by_cases hlast : input.length - offset ≤ 48
    · have hmin : min kCardWriteChunkMaxLength (input.length - offset) = input.length - offset :=
        Nat.min_eq_right hlast
      have htake : (input.drop offset).take (input.length - offset) = input.drop offset :=
        List.take_of_length_le (by omega)
      refine ⟨[input.drop offset], nofun, ⟨List.flatten_singleton, ?_⟩, ?_⟩
      · intro chunk hchunk
        rw [List.mem_singleton.1 hchunk]
        omega
      · have hend : writeFrom input fuel (offset + (input.length - offset)) = pure () := by
          cases fuel with
          | zero => omega
          | succ fuel => exact if_neg (by omega)
        have hchunk : Call.ofChunk (input.drop offset) =
            ⟨kUartWrite, ByteView.of (UInt8.ofNat (input.length - offset) ::
              input.drop offset)⟩ := by
          rw [Call.ofChunk, hdrop]
        rw [hmin, if_pos (by omega), htake, writeRealSend_eq, hend]
        show _ = (send Call.realSend.command Call.realSend.payload >>= fun _ =>
          send (Call.ofChunk (input.drop offset)).command
            (Call.ofChunk (input.drop offset)).payload >>=
            fun _ => pure ())
        rw [hchunk]
        rfl
    · have hmin : min kCardWriteChunkMaxLength (input.length - offset) = 48 :=
        Nat.min_eq_left (by unfold kCardWriteChunkMaxLength; omega)
      have hlength : ((input.drop offset).take 48).length = 48 := by rw [List.length_take]; omega
      have hrest : (input.drop offset).take 48 ++ input.drop (offset + 48) = input.drop offset := by
        rw [← List.drop_drop, List.take_append_drop]
      obtain ⟨chunks, hchunks, hchunked, hloop⟩ := @ih (offset + 48) (by omega) (by omega)
      refine ⟨(input.drop offset).take 48 :: chunks, nofun, ⟨?_, ?_⟩, ?_⟩
      · rw [List.flatten_cons, hchunked.joined, hrest]
      · exact List.forall_mem_cons.2 ⟨by omega, hchunked.sizes⟩
      · obtain ⟨chunk', chunks', rfl⟩ := List.exists_cons_of_ne_nil hchunks
        have hchunk : Call.ofChunk ((input.drop offset).take 48) =
            ⟨kUartWrite, ByteView.of (UInt8.ofNat 48 :: (input.drop offset).take 48)⟩ := by
          rw [Call.ofChunk, hlength]
        rw [hmin, if_neg (by omega), hloop]
        show _ = (send (Call.ofChunk ((input.drop offset).take 48)).command
          (Call.ofChunk ((input.drop offset).take 48)).payload >>= fun _ => sendAll _)
        rw [hchunk]
        rfl

theorem Call.ofChunk_fits {chunk : List UInt8} (h : chunk.length ≤ 48) :
    (Call.ofChunk chunk).Fits := by
  refine ⟨?_, .inr nofun⟩
  show (UInt8.ofNat chunk.length :: chunk).length ≤ kMaxCommandPayload
  rw [List.length_cons]
  unfold kMaxCommandPayload
  omega

theorem cardCalls_fit {chunks : List (List UInt8)} (h : ∀ chunk ∈ chunks, chunk.length ≤ 48) :
    ∀ call ∈ cardCalls chunks, call.Fits := by
  induction chunks with
  | nil => nofun
  | cons chunk chunks ih =>
    have hchunk := Call.ofChunk_fits (h chunk List.mem_cons_self)
    cases chunks with
    | nil => exact List.forall_mem_cons.2 ⟨by decide, List.forall_mem_cons.2 ⟨hchunk, nofun⟩⟩
    | cons chunk' chunks =>
      refine List.forall_mem_cons.2 ⟨hchunk, ih fun chunk hmem => h chunk ?_⟩
      exact List.mem_cons_of_mem _ hmem

/-! ## Chunks that are received -/

/-- All of the transactions succeed, with these answers. -/
def Answered : List (Call × List UInt8) → CommandState → Prop
  | [], _ => True
  | (call, answer) :: trace, c =>
    (call.transact c).1 = .ok answer ∧ Answered trace (call.transact c).2

/-- The read of the number of bytes that have been received. -/
def Call.rxLength : Call :=
  ⟨kRegRead, ByteView.of (1 :: registerLength kUartRxLength :: putU32Be kUartRxLength)⟩

/-- The read of `size` bytes. -/
def Call.uartRead (size : Nat) : Call := ⟨kUartRead, ByteView.of [UInt8.ofNat size]⟩

/-- The transactions for an output with space for `left` more bytes, with their answers: the device
says how many bytes it has, and delivers some of them, until it has none or the output is full. -/
inductive Reading : Nat → List (Call × List UInt8) → Prop
  | full : Reading 0 []
  | drained {left : Nat} : 0 < left → Reading left [(.rxLength, [0])]
  | chunk {left : Nat} {available : UInt8} {chunk : List UInt8} {trace : List (Call × List UInt8)} :
    0 < left → available ≠ 0 → chunk.length = min (min available.toNat 32) left →
      Reading (left - chunk.length) trace →
      Reading left ((.rxLength, [available]) :: (.uartRead chunk.length, chunk) :: trace)

/-- The bytes that the device delivers in some transactions. -/
def delivered (trace : List (Call × List UInt8)) : List UInt8 :=
  trace.flatMap fun (call, answer) => if call.command = kUartRead then answer else []

theorem delivered_chunk (available : UInt8) (chunk : List UInt8)
    (trace : List (Call × List UInt8)) :
    delivered ((.rxLength, [available]) :: (.uartRead chunk.length, chunk) :: trace) =
      chunk ++ delivered trace := rfl

theorem Reading.length_le {left : Nat} {trace : List (Call × List UInt8)} (h : Reading left trace) :
    (delivered trace).length ≤ left := by
  induction h with
  | full => exact Nat.le_refl _
  | drained => exact Nat.zero_le _
  | chunk hleft _ hchunk _ ih =>
    rw [delivered_chunk, List.length_append]
    omega

/-- The output is full at the end, or the device has no more bytes. -/
theorem Reading.drains {left : Nat} {trace : List (Call × List UInt8)} (h : Reading left trace)
    (hspace : (delivered trace).length < left) : trace.getLast? = some (.rxLength, [0]) := by
  induction h with
  | full => exact absurd hspace (Nat.lt_irrefl _)
  | drained => rfl
  | chunk hleft havailable hchunk hrest ih =>
    rw [delivered_chunk, List.length_append] at hspace
    have hlast := ih (by omega)
    rw [List.getLast?_cons_cons, List.getLast?_cons, hlast]
    rfl

/-- The read of one register. -/
theorem exec_rxLength (c : CommandState) :
    (readRegistersLocked kUartRxLength 1).exec c =
      ((match (Call.rxLength.transact c).1 with
        | .ok answer => if answer.length ≠ 1 then .error (.failure .protocolError) else .ok answer
        | .error stop => .error stop), (Call.rxLength.transact c).2) := by
  unfold readRegistersLocked
  rw [if_neg (by decide), Program.exec_bind, exec_transactLocked]
  have hcall : (⟨kRegRead, ByteView.of (UInt8.ofNat 1 :: registerLength kUartRxLength ::
    putU32Be kUartRxLength)⟩ : Call) = .rxLength := rfl
  rw [hcall]
  cases Call.rxLength.transact c with | mk outcome c' =>
  cases outcome with
  | error stop => rfl
  | ok answer =>
    dsimp only
    split <;> rfl

/-- The read of some bytes. -/
theorem exec_uartRead (size : Nat) (c : CommandState) :
    (transactLocked kUartRead (ByteView.of [UInt8.ofNat size])).exec c =
    (Call.uartRead size).transact c := rfl

theorem copyInto_eq {output values : List UInt8} {index : Nat}
    (h : index + values.length ≤ output.length) : copyInto output index values =
      .ok (output.take index ++ values ++ output.drop (index + values.length)) := if_pos h

/-- The output after a chunk. -/
def received (output : List UInt8) (total : Nat) (chunk : List UInt8) : List UInt8 :=
  output.take total ++ chunk ++ output.drop (total + chunk.length)

theorem received_length {output chunk : List UInt8} {total : Nat}
    (h : total + chunk.length ≤ output.length) : (received output total chunk).length =
    output.length := by
  unfold received
  rw [List.length_append, List.length_append, List.length_take, List.length_drop]
  omega

theorem received_nil (output : List UInt8) (total : Nat) : received output total [] = output := by
  unfold received
  rw [List.append_nil, List.length_nil, Nat.add_zero, List.take_append_drop]

theorem received_append {output chunk : List UInt8} {total : Nat}
    (h : total + chunk.length ≤ output.length) (rest : List UInt8) :
    received (received output total chunk) (total + chunk.length) rest =
    received output total (chunk ++ rest) := by
  have hhead : (output.take total ++ chunk).length = total + chunk.length := by
    rw [List.length_append, List.length_take]
    omega
  unfold received
  rw [List.take_left' hhead, ← List.drop_drop, List.drop_left' hhead, List.drop_drop,
    List.length_append,
    Nat.add_assoc, List.append_assoc (output.take total)]

/-- The number of bytes that are asked for. -/
def chunkSize (available : UInt8) (left : Nat) : Nat := min (min available.toNat 32) left

/-- **One round.** -/
theorem exec_readFrom {output : List UInt8} {total : Nat}
    (htotal : total < output.length) (fuel : Nat) (c : CommandState) :
    (readFrom (fuel + 1) output total).exec c =
      match Call.rxLength.transact c with
      | (.error stop, c') => (.error stop, c')
      | (.ok answer, c') =>
        if answer.length ≠ 1 then (.error (.failure .protocolError), c')
        else if answer.getD 0 0 = 0 then (.ok (total, output), c')
        else
          let size := chunkSize (answer.getD 0 0) (output.length - total)
          match (Call.uartRead size).transact c' with
          | (.error stop, c'') => (.error stop, c'')
          | (.ok chunk, c'') =>
            if chunk.length ≠ size then (.error (.failure .protocolError), c'')
            else (readFrom fuel (received output total chunk) (total + size)).exec c'' := by
  conv_lhs => unfold readFrom
  rw [if_pos htotal, Program.exec_bind, exec_rxLength]
  cases Call.rxLength.transact c with | mk outcome c' =>
  cases outcome with
  | error stop => rfl
  | ok answer =>
    dsimp only
    by_cases hanswer : answer.length ≠ 1
    · rw [if_pos hanswer, if_pos hanswer]
    · rw [if_neg hanswer, if_neg hanswer]
      obtain ⟨available, rfl⟩ := List.length_eq_one_iff.1 (not_not.1 hanswer)
      have hbyte : Control.lift (byteAt [available] 0) = (pure available : Control UInt8) := rfl
      show Program.exec (Control.lift (byteAt [available] 0) >>= _) c' =
        if available = 0 then _ else _
      rw [hbyte, pure_bind]
      split
      · rfl
      · have hsize : min (min available.toNat kCardReadChunkMaxLength) (output.length - total) =
            chunkSize available (output.length - total) := rfl
        have hfirst : [available].getD 0 0 = available := rfl
        rw [hsize, Program.exec_bind, exec_uartRead, hfirst]
        cases (Call.uartRead (chunkSize available (output.length - total))).transact c' with
        | mk outcome c'' =>
        cases outcome with
        | error stop => rfl
        | ok chunk =>
          dsimp only
          split
          · rfl
          · next hchunk =>
            have hfits : total + chunk.length ≤ output.length := by
              rw [not_not.1 hchunk]
              unfold chunkSize
              omega
            rw [copyInto_eq hfits]
            rfl

/-- The loop of `read_card_data` comes to an end, and makes the transactions of a `Reading` if it
succeeds. -/
theorem readFrom_outcome {output : List UInt8} {total fuel : Nat} (htotal : total ≤ output.length)
    (hfuel : output.length - total < fuel) (c : CommandState) :
    (∃ e c', (readFrom fuel output total).exec c = (.error (.failure e), c')) ∨
      ∃ trace, Reading (output.length - total) trace ∧ Answered trace c ∧
        (readFrom fuel output total).exec c =
          (.ok (total + (delivered trace).length, received output total (delivered trace)),
            transactAll (trace.map Prod.fst) c) := by
  induction fuel generalizing output total c with
  | zero => omega
  | succ fuel ih =>
    obtain hfull | hspace := Nat.eq_or_lt_of_le htotal
    · refine .inr ⟨[], ?_, trivial, ?_⟩
      · rw [hfull, Nat.sub_self]
        exact .full
      · unfold readFrom
        rw [if_neg (by omega), delivered, List.flatMap_nil, received_nil]
        rfl
    have hdefined := Call.rxLength.transact_defined c
    rw [exec_readFrom hspace]
    cases hlength : Call.rxLength.transact c with | mk outcome c' =>
    rw [hlength] at hdefined
    cases outcome with
    | error stop =>
      cases stop with
      | failure e => exact .inl ⟨e, c', rfl⟩
      | undefined => exact absurd rfl hdefined
    | ok answer =>
      dsimp only
      split
      · exact .inl ⟨_, _, rfl⟩
      · next hanswer =>
        obtain ⟨available, rfl⟩ := List.length_eq_one_iff.1 (not_not.1 hanswer)
        have hfirst : [available].getD 0 0 = available := rfl
        rw [hfirst]
        split
        · next hnone =>
          refine .inr ⟨_, .drained (by omega), ⟨?_, trivial⟩, ?_⟩
          · rw [hlength, hnone]
          · have hnothing : delivered [(Call.rxLength, [0])] = [] := rfl
            rw [hnothing, received_nil, List.map_singleton, transactAll, hlength]
            rfl
        · next havailable =>
          have hdefined :=
            (Call.uartRead (chunkSize available (output.length - total))).transact_defined c'
          cases hread :
            (Call.uartRead (chunkSize available (output.length - total))).transact c' with
          | mk outcome c'' =>
          rw [hread] at hdefined
          cases outcome with
          | error stop =>
            cases stop with
            | failure e => exact .inl ⟨e, c'', rfl⟩
            | undefined => exact absurd rfl hdefined
          | ok chunk =>
            dsimp only
            split
            · exact .inl ⟨_, _, rfl⟩
            · next hchunk =>
              have hsize : chunk.length = chunkSize available (output.length - total) :=
                not_not.1 hchunk
              have hpositive : 0 < chunk.length := by
                have : available.toNat ≠ 0 := fun h => havailable (UInt8.toNat_inj.1 h)
                rw [hsize]
                unfold chunkSize
                omega
              have hfits : total + chunk.length ≤ output.length := by
                rw [hsize]
                unfold chunkSize
                omega
              have hlength' := received_length hfits
              rw [← hsize] at hread ⊢
              refine (ih (by omega) (by omega) c'').imp id ?_
              rintro ⟨trace, hreading, hanswered, hexec⟩
              have hleft : (received output total chunk).length - (total + chunk.length) =
                  output.length - total - chunk.length := by omega
              rw [hleft] at hreading
              refine ⟨_, .chunk (by omega) havailable hsize hreading, ⟨by rw [hlength], ?_⟩, ?_⟩
              · rw [hlength]
                exact ⟨by rw [hread], by rw [hread]; exact hanswered⟩
              · rw [hexec, delivered_chunk, received_append hfits,
                  List.length_append, Nat.add_assoc]
                simp only [List.map_cons, transactAll, hlength, hread]

/-- The transactions of a `Reading` have `read_card_data` succeed. -/
theorem Reading.exec {left : Nat} {trace : List (Call × List UInt8)} (h : Reading left trace)
    {output : List UInt8} {total fuel : Nat} {c : CommandState}
    (hleft : output.length - total = left) (htotal : total ≤ output.length) (hfuel : left < fuel)
    (hanswered : Answered trace c) :
    (readFrom fuel output total).exec c =
      (.ok (total + (delivered trace).length, received output total (delivered trace)),
        transactAll (trace.map Prod.fst) c) := by
  induction h generalizing output total fuel c with
  | full =>
    obtain ⟨fuel, rfl⟩ := Nat.exists_eq_succ_of_ne_zero (Nat.ne_zero_of_lt hfuel)
    unfold readFrom
    rw [if_neg (by omega), delivered, List.flatMap_nil, received_nil]
    rfl
  | drained hspace =>
    obtain ⟨fuel, rfl⟩ := Nat.exists_eq_succ_of_ne_zero (Nat.ne_zero_of_lt hfuel)
    obtain ⟨hlength, -⟩ := hanswered
    have hpair : Call.rxLength.transact c = (.ok [0], (Call.rxLength.transact c).2) :=
      Prod.ext hlength rfl
    have hnothing : delivered [(Call.rxLength, [0])] = [] := rfl
    rw [exec_readFrom (by omega), hnothing, received_nil, hpair]
    rfl
  | @chunk left available chunk trace hspace havailable hsize _ ih =>
    obtain ⟨fuel, rfl⟩ := Nat.exists_eq_succ_of_ne_zero (Nat.ne_zero_of_lt hfuel)
    obtain ⟨hlength, hread, hanswered⟩ := hanswered
    have hfits : total + chunk.length ≤ output.length := by omega
    have hlength' := received_length hfits
    have hpositive : 0 < chunk.length := by
      have : available.toNat ≠ 0 := fun h => havailable (UInt8.toNat_inj.1 h)
      omega
    have hpair : Call.rxLength.transact c = (.ok [available], (Call.rxLength.transact c).2) :=
      Prod.ext hlength rfl
    rw [exec_readFrom (by omega), List.map_cons, List.map_cons, transactAll, transactAll]
    generalize (Call.rxLength.transact c).2 = c₁ at hpair hread hanswered ⊢
    have hpair' : (Call.uartRead chunk.length).transact c₁ =
        (.ok chunk, ((Call.uartRead chunk.length).transact c₁).2) := Prod.ext hread rfl
    have hfirst : [available].getD 0 0 = available := rfl
    have hchunk : chunkSize available (output.length - total) = chunk.length := by
      rw [hsize, hleft]
      rfl
    rw [hpair]
    dsimp only
    rw [if_neg (by simp), hfirst, if_neg havailable, hchunk, hpair']
    dsimp only
    rw [if_neg (by simp), ih (by omega) (by omega) (by omega) hanswered, delivered_chunk,
      received_append hfits,
      List.length_append, Nat.add_assoc]

/-! ## Both functions -/

/-- **What is sent to and received from a card.** -/
theorem card_data (c : CommandState) :
    (∀ input : List UInt8, input ≠ [] → input.length ≤ 255 → ∃ chunks, Chunked chunks input ∧
      let calls := cardCalls chunks
      ∃ k ≤ calls.length, ∃ new,
        ((writeCardData (ByteView.of input)).exec c).2.transport.log = c.transport.log ++ new ∧
        (requests new).map decodeRequest =
          (calls.take k).mapIdx (fun i call => call.said (c.sequence + UInt8.ofNat i)) ∧
        AllAnswered (calls.take (k - 1)) c ∧
        (AllAnswered calls c → k = calls.length ∧
          ((writeCardData (ByteView.of input)).exec c).1 = .ok ()) ∧
        (¬AllAnswered calls c → ∃ e, ((writeCardData (ByteView.of input)).exec c).1 =
          .error (.failure e))) ∧
    ∀ output : List UInt8, output ≠ [] → output.length ≤ 255 →
      ((∃ e c', (readCardData (some output)).exec c = (.error (.failure e), c')) ∨
        ∃ trace, Reading output.length trace ∧ Answered trace c) ∧
      ∀ trace, Reading output.length trace → Answered trace c →
        (readCardData (some output)).exec c =
          (.ok ((delivered trace).length, delivered trace ++ output.drop (delivered trace).length),
            transactAll (trace.map Prod.fst) c) ∧
        (delivered trace).length ≤ output.length ∧
        ((delivered trace).length < output.length → trace.getLast? = some (.rxLength, [0])) := by
  constructor
  · intro input hinput hlength
    have hpositive := List.length_pos_iff.2 hinput
    obtain ⟨chunks, -, hchunked, hloop⟩ :=
      @writeFrom_eq input (input.length + 1) 0 hpositive (by omega)
    have hwrite : writeCardData (ByteView.of input) = sendAll (cardCalls chunks) := by
      unfold writeCardData
      rw [if_neg (by rw [ByteView.of_size, ByteView.of_data]; simp [hinput,
        kCardFrameMaxLength, hlength])]
      exact hloop
    refine ⟨chunks, hchunked, ?_⟩
    obtain ⟨k, hk, hstate, hbefore, hall, hfailed⟩ := sendAll_spec (cardCalls chunks) c
    obtain ⟨-, new, hlog, hrequests⟩ := transactAll_spec ((cardCalls chunks).take k) c
    have hfits : ∀ call ∈ (cardCalls chunks).take k, call.Fits := fun call hcall =>
      cardCalls_fit (fun chunk hchunk => (hchunked.sizes chunk hchunk).2) call
        (List.mem_of_mem_take hcall)
    rw [List.filter_eq_self.2 (by simpa using hfits)] at hrequests
    rw [hwrite]
    exact ⟨k, hk, new, hstate ▸ hlog, hrequests, hbefore, hall, hfailed⟩
  · intro output houtput hlength
    have hread : readCardData (some output) = readFrom (output.length + 1) output 0 := by
      unfold readCardData
      dsimp only
      rw [if_neg (by simp [houtput, kCardFrameMaxLength, hlength])]
    rw [hread]
    refine ⟨?_, fun trace hreading hanswered => ?_⟩
    · refine (readFrom_outcome (Nat.zero_le _) (by omega) c).imp id ?_
      rintro ⟨trace, hreading, hanswered, -⟩
      exact ⟨trace, hreading, hanswered⟩
    · have hexec := @Reading.exec _ _ hreading output _ _ _ (Nat.sub_zero _) (Nat.zero_le _)
        (Nat.lt_succ_self _) hanswered
      rw [Nat.zero_add] at hexec
      refine ⟨hexec.trans ?_, hreading.length_le, hreading.drains⟩
      simp [received]

end Px4.It930x
