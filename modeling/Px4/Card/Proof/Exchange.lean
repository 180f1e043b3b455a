import Px4.Card.Proof.Atr
import Px4.Card.Proof.Uart
import Px4.It930x.Proof.Control

/-!
# Frames that are sent in exchanges

* `decodeFrame_frameOf`: what is made of a frame.
* `after_sendBlock`: a block is sent as one frame, or not at all.
* `exchangeBlock_calls`: an exchange sends the frame of its block, and answers to requests for more
  time.
-/

namespace Px4.Card

open Lib (Program)
open Lib.Program (After)

/-! ## Frames -/

theorem edcOf_length (useCrc : Bool) (bytes : List UInt8) :
    (edcOf useCrc bytes).length = edcLength useCrc := by
  unfold edcOf edcLength
  split <;> rfl

theorem headerOf_length (block : Block) : (headerOf block).length = 3 + block.data.length := by
  unfold headerOf
  simp only [List.length_cons]
  omega

@[simp] theorem frameOf_length (useCrc : Bool) (block : Block) :
    (frameOf useCrc block).length = frameLength useCrc block := by
  unfold frameOf frameLength
  rw [List.length_append, headerOf_length, edcOf_length]

theorem edcMatches_append (useCrc : Bool) (bytes : List UInt8) :
    edcMatches useCrc (bytes ++ edcOf useCrc bytes) = true := by
  unfold edcMatches edcOf
  cases useCrc with
  | true =>
    have hpair :=
      (It930x.pair_iff (It930x.highByte (calculateCrc bytes)) (It930x.lowByte (calculateCrc bytes))
      (calculateCrc bytes)).2 ⟨rfl, rfl⟩
    rw [if_pos rfl, if_pos rfl, List.length_append]
    have hlength : bytes.length + [(calculateCrc bytes >>> 8).toUInt8,
        (calculateCrc bytes).toUInt8].length - 2 =
        bytes.length := rfl
    rw [hlength, List.drop_left, List.take_left]
    exact beq_iff_eq.2 hpair
  | false =>
    rw [if_neg nofun, if_neg nofun, xorOf_append, UInt8.xor_self]
    rfl

theorem toNat_dataLength {block : Block} (h : block.data.length ≤ 254) :
    (UInt8.ofNat block.data.length).toNat = block.data.length :=
  UInt8.toNat_ofNat_of_lt' (Nat.lt_of_le_of_lt h (by decide))

/-- **What is made of a frame**, of which there may be too much to be read. -/
theorem decodeFrame_frameOf {useCrc : Bool} {block : Block} (hdata : block.data.length ≤ 254) :
    decodeFrame useCrc ((frameOf useCrc block).take kCardUartFrameMaxLength) =
      if frameLength useCrc block ≤ kCardUartFrameMaxLength then some block else none := by
  have hframe : (frameOf useCrc block).take kCardUartFrameMaxLength =
      kT1Nad :: block.pcb :: UInt8.ofNat block.data.length ::
        (block.data ++ edcOf useCrc (headerOf block)).take 252 := rfl
  have hexpected : 3 + (UInt8.ofNat block.data.length).toNat + edcLength useCrc =
      frameLength useCrc block := by
    rw [toNat_dataLength hdata, frameLength]
  split
  · next hfits =>
    have hwhole : (frameOf useCrc block).take kCardUartFrameMaxLength = frameOf useCrc block :=
      List.take_of_length_le (by rwa [frameOf_length])
    have hdecode : decodeFrame useCrc (frameOf useCrc block) =
        if 3 + (UInt8.ofNat block.data.length).toNat + edcLength useCrc ≤ kCardUartFrameMaxLength ∧
          3 + (UInt8.ofNat block.data.length).toNat + edcLength useCrc ≤
          (frameOf useCrc block).length ∧
          kT1Nad = kT1Nad ∧ edcMatches useCrc ((frameOf useCrc block).take
            (3 + (UInt8.ofNat block.data.length).toNat + edcLength useCrc)) = true then
          some ⟨block.pcb, (block.data ++ edcOf useCrc (headerOf block)).take
            (UInt8.ofNat block.data.length).toNat⟩
        else none := rfl
    have hall : (frameOf useCrc block).take (frameLength useCrc block) = frameOf useCrc block :=
      List.take_of_length_le (Nat.le_of_eq (frameOf_length useCrc block))
    have hmatches : edcMatches useCrc (frameOf useCrc block) = true :=
      edcMatches_append useCrc (headerOf block)
    rw [hwhole, hdecode, hexpected, hall, toNat_dataLength hdata, List.take_left,
      if_pos ⟨hfits, Nat.le_of_eq (frameOf_length useCrc block).symm, rfl, hmatches⟩]
  · next hlong =>
    refine decodeFrame_refused (.inl ?_)
    rw [hframe, expectedLengthOf_cons, hexpected]
    exact Nat.not_le.1 hlong

/-! ## Sending -/

/-- **A block is sent as one frame**, or not at all. -/
theorem after_sendBlock {pcb : UInt8} {data : ByteView} {w : World CardSession}
    {Q : Unit → World CardSession → Prop} {R : Stop → World CardSession → Prop}
    (hrefused : R (.failure .invalidArgument) w)
    (hsent : ∀ result later, frameLength w.session.useCrc ⟨pcb, data.bytes⟩ ≤
      kCardUartFrameMaxLength →
      match (result : Result Unit) with
      | .ok () =>
      Q () (w.answered (.writeData (frameOf w.session.useCrc ⟨pcb, data.bytes⟩)) (.ok (), later))
      | .error e =>
        R (.failure e) (w.answered (.writeData (frameOf w.session.useCrc ⟨pcb, data.bytes⟩))
          (.error e, later))) :
    After (sendBlock pcb data) w Q R := by
  unfold sendBlock
  by_cases hbad : 254 < data.size ∨ data.size ≠ 0 ∧ data.data = none
  · rw [if_pos hbad]
    exact hrefused
  rw [if_neg hbad]
  refine (Program.after_bind _).2 (after_fields.2 ?_)
  by_cases hlong : kCardUartFrameMaxLength < 3 + data.size + edcLength w.session.useCrc
  · rw [if_pos hlong]
    exact hrefused
  rw [if_neg hlong]
  have hsize : data.bytes.length = data.size := by
    unfold ByteView.bytes
    cases hdata : data.data with
    | none =>
      rw [hdata] at hbad
      exact of_not_not fun h => hbad (.inr ⟨fun h' => h h'.symm, rfl⟩)
    | some bytes => exact data.size_eq bytes hdata
  have hlimit : frameLength w.session.useCrc ⟨pcb, data.bytes⟩ ≤ kCardUartFrameMaxLength := by
    unfold frameLength
    rw [hsize]
    exact Nat.not_lt.1 hlong
  have hframe : kT1Nad :: pcb :: UInt8.ofNat data.size :: data.bytes ++
      edcOf w.session.useCrc (kT1Nad :: pcb :: UInt8.ofNat data.size :: data.bytes) =
        frameOf w.session.useCrc ⟨pcb, data.bytes⟩ := by
    unfold frameOf headerOf
    rw [hsize]
  dsimp only
  rw [hframe]
  refine after_checked (after_call fun answer => ?_)
  obtain ⟨result, later⟩ := answer
  have hresult := hsent result later hlimit
  cases result with
  | ok _ => exact hresult
  | error e => exact hresult

/-- The result of a function, which may be a failure. -/
theorem after_attempt {S α : Type} {x : Driver S α} {w : World S} {Q : Result α → World S → Prop}
    {R : Stop → World S → Prop} (h : After x w (fun a => Q (.ok a)) fun stop w' => match stop with
      | .failure e => Q (.error e) w'
      | .undefined => R .undefined w') : After (attempt x) w Q R := by
  unfold After attempt at *
  rw [Program.exec_of]
  generalize x.exec w = outcome at h ⊢
  obtain ⟨stop | a, w'⟩ := outcome
  · cases stop with
    | failure e => exact h
    | undefined => exact h
  · exact h

/-! ## The frames of an exchange -/

/-- What is written in a call. -/
def writeOf : Sigma Ask.Answer → Option (List UInt8)
  | ⟨.writeData frame, _⟩ => some frame
  | _ => none

/-- What is written. -/
def writesOf (log : Log) : List (List UInt8) := log.filterMap writeOf

@[simp] theorem writesOf_append (log log' : Log) :
    writesOf (log ++ log') = writesOf log ++ writesOf log' :=
  List.filterMap_append

theorem writesOf_eq_nil {log : Log} (h : ∀ entry ∈ log, ∀ frame, entry.1 ≠ .writeData frame) :
    writesOf log = [] := by
  refine List.filterMap_eq_nil_iff.2 fun ⟨q, answer⟩ hentry => ?_
  cases q with
  | writeData frame => exact absurd rfl (h _ hentry frame)
  | _ => rfl

/-- Calls that write only such frames and leave the session as it is. -/
def Sent (F : List UInt8 → Prop) (w w' : World CardSession) : Prop :=
  ∃ new, Since w w' new ∧ ∀ frame ∈ writesOf new, F frame

/-- A frame has been written in between. -/
def Wrote (frame : List UInt8) (w w' : World CardSession) : Prop :=
  ∃ new, Since w w' new ∧ frame ∈ writesOf new

section
variable {F : List UInt8 → Prop} {frame : List UInt8} {w w' w'' : World CardSession}

theorem Sent.session (h : Sent F w w') : w'.session = w.session := h.choose_spec.1.session

theorem Sent.trans (h : Sent F w w') (h' : Sent F w' w'') : Sent F w w'' := by
  obtain ⟨new, hsince, hnew⟩ := h
  obtain ⟨new', hsince', hnew'⟩ := h'
  refine ⟨new ++ new', hsince.trans hsince', fun frame hframe => ?_⟩
  rw [writesOf_append] at hframe
  exact (List.mem_append.1 hframe).elim (hnew frame) (hnew' frame)

theorem Sent.mono {F' : List UInt8 → Prop} (h : Sent F w w') (hF : ∀ frame, F frame → F' frame) :
    Sent F' w w' := by
  obtain ⟨new, hsince, hnew⟩ := h
  exact ⟨new, hsince, fun frame hframe => hF frame (hnew frame hframe)⟩

theorem Silent.sent (h : Silent w w') : Sent F w w' := by
  obtain ⟨new, hsince, hnew⟩ := h
  exact ⟨new, hsince, by rw [writesOf_eq_nil hnew]; nofun⟩

theorem Sent.one (hF : F frame) (answer : (Ask.writeData frame).Answer) :
    Sent F w (w.answered (.writeData frame) answer) :=
  ⟨_, .one w _ answer, fun frame' hframe' => by rw [List.mem_singleton.1 hframe']; exact hF⟩

theorem Wrote.one (answer : (Ask.writeData frame).Answer) :
    Wrote frame w (w.answered (.writeData frame) answer) :=
  ⟨_, .one w _ answer, List.mem_singleton_self _⟩

theorem Wrote.sent (h : Wrote frame w w') (h' : Sent F w' w'') : Wrote frame w w'' := by
  obtain ⟨new, hsince, hnew⟩ := h
  obtain ⟨new', hsince', -⟩ := h'
  exact ⟨new ++ new', hsince.trans hsince',
    by rw [writesOf_append]; exact List.mem_append_left _ hnew⟩

theorem Sent.wrote (h : Sent F w w') (h' : Wrote frame w' w'') : Wrote frame w w'' := by
  obtain ⟨new, hsince, -⟩ := h
  obtain ⟨new', hsince', hnew'⟩ := h'
  exact ⟨new ++ new', hsince.trans hsince',
    by rw [writesOf_append]; exact List.mem_append_right _ hnew'⟩

end

/-- The frames of an exchange. -/
def FrameOf (useCrc : Bool) (block : Block) (frame : List UInt8) : Prop :=
  frameLength useCrc block ≤ kCardUartFrameMaxLength ∧ frame = frameOf useCrc block ∨
    ∃ multiplier, frame = frameOf useCrc (wtxBlock multiplier)

theorem extendWaiting_calls (fuel deadline rounds : Nat) (block : Block) (response : Result Block)
    (w : World CardSession) : After (extendWaiting fuel deadline rounds response) w
      (fun _ => Sent (FrameOf w.session.useCrc block) w) fun _ => Sent
      (FrameOf w.session.useCrc block) w := by
  induction rounds generalizing response w with
  | zero => exact (Silent.refl w).sent
  | succ rounds ih =>
    cases response with
    | error e => exact (Silent.refl w).sent
    | ok answer =>
      unfold extendWaiting
      split
      · split
        · next multiplier _ =>
          split
          · exact (Silent.refl w).sent
          refine (Program.after_bind _).2
            (after_sendBlock (Silent.refl w).sent fun result later _ => ?_)
          have hsent {answer} : Sent (FrameOf w.session.useCrc block) w
              (w.answered (.writeData (frameOf w.session.useCrc (wtxBlock multiplier))) answer) :=
            .one (.inr ⟨multiplier, rfl⟩) answer
          cases result with
          | error e => exact hsent
          | ok _ =>
            refine (Program.after_bind _).2 (after_attempt ?_)
            refine (Quiet.receiveBlock fuel deadline _).mono (fun answer' w' hsilent => ?_)
              fun stop w' hsilent => ?_
            · have hsent' := hsent.trans (hsilent.sent (F := FrameOf w.session.useCrc block))
              have hnext := ih (.ok answer') w'
              rw [hsent'.session] at hnext
              exact hnext.mono (fun _ _ => hsent'.trans) fun _ _ => hsent'.trans
            · have hsent' := hsent.trans (hsilent.sent (F := FrameOf w.session.useCrc block))
              cases stop with
              | undefined => exact hsent'
              | failure e =>
                have hnext := ih (.error e) w'
                rw [hsent'.session] at hnext
                exact hnext.mono (fun _ _ => hsent'.trans) fun _ _ => hsent'.trans
        · exact (Silent.refl w).sent
      · exact (Silent.refl w).sent

/-- **The frames of an exchange.** -/
theorem exchangeBlock_calls (fuel : Nat) (pcb : UInt8) (data : ByteView) (deadline maxRetries : Nat)
    (w : World CardSession) : After (exchangeBlock fuel pcb data deadline maxRetries) w
      (fun _ w' => Sent (FrameOf w.session.useCrc ⟨pcb, data.bytes⟩) w w' ∧
        frameLength w.session.useCrc ⟨pcb, data.bytes⟩ ≤ kCardUartFrameMaxLength ∧
          Wrote (frameOf w.session.useCrc ⟨pcb, data.bytes⟩) w w')
      fun _ => Sent (FrameOf w.session.useCrc ⟨pcb, data.bytes⟩) w := by
  unfold exchangeBlock
  induction maxRetries generalizing w with
  | zero =>
    refine (Program.after_bind _).2
      ((Quiet.deadlineExpired deadline w).mono (fun expired w' hsilent => ?_)
      fun _ _ hsilent => hsilent.sent)
    split
    · exact hsilent.sent
    · exact hsilent.sent
  | succ left ih =>
    unfold exchangeFrom
    refine (Program.after_bind _).2
      ((Quiet.deadlineExpired deadline w).mono (fun expired w₁ hsilent => ?_)
      fun _ _ hsilent => hsilent.sent)
    have hbefore : Sent (FrameOf w.session.useCrc ⟨pcb, data.bytes⟩) w w₁ := hsilent.sent
    split
    · exact hbefore
    rw [← hbefore.session] at hbefore ⊢
    refine (Program.after_bind _).2 (after_sendBlock hbefore fun result later hlimit => ?_)
    have hwrote :=
      hbefore.wrote (@Wrote.one (frameOf w₁.session.useCrc ⟨pcb, data.bytes⟩) _ (result, later))
    have hsent :=
      hbefore.trans (.one (.inl ⟨hlimit, rfl⟩ : FrameOf w₁.session.useCrc ⟨pcb, data.bytes⟩ _)
      (result, later))
    have hsession : (w₁.answered (.writeData (frameOf w₁.session.useCrc ⟨pcb, data.bytes⟩))
        (result, later)).session =
      w₁.session := rfl
    cases result with
    | error e => exact hsent
    | ok _ =>
      dsimp only
      generalize w₁.answered (.writeData (frameOf w₁.session.useCrc ⟨pcb, data.bytes⟩))
        (.ok (), later) = w₂
        at hwrote hsent hsession ⊢
      rw [← hsession] at hwrote hsent hlimit ⊢
      generalize hF : FrameOf w₂.session.useCrc ⟨pcb, data.bytes⟩ = F at hsent ⊢
      refine (Program.after_bind _).2 (after_fields.2 ((Program.after_bind _).2 ?_))
      refine (Quiet.deadlineAfter _ w₂).mono (fun now w₃ hsilent => ?_) fun _ _ hsilent =>
        hsent.trans hsilent.sent
      have hsent₃ := hsent.trans (hsilent.sent (F := F))
      refine (Program.after_bind _).2
        ((Quiet.attempt (.receiveBlock fuel _) w₃).mono (fun response w₄ hreceived => ?_)
        fun _ _ hreceived => hsent₃.trans hreceived.sent)
      have hsent₄ := hsent₃.trans (hreceived.sent (F := F))
      have hsession₄ : w₄.session.useCrc = w₂.session.useCrc := by
        rw [hreceived.session, hsilent.session]
      have hcalls := extendWaiting_calls fuel deadline fuel ⟨pcb, data.bytes⟩ response w₄
      rw [hsession₄, hF] at hcalls
      refine (Program.after_bind _).2 (hcalls.mono (fun result w₅ hextended => ?_)
        fun _ _ hextended => hsent₄.trans hextended)
      have hsent₅ := hsent₄.trans hextended
      have hsession₅ : w₅.session.useCrc = w₂.session.useCrc := by rw [hextended.session, hsession₄]
      cases result with
      | ok block =>
        refine ⟨hsent₅, hlimit, ?_⟩
        exact hwrote.sent ((hsilent.sent.trans hreceived.sent).trans hextended)
      | error e =>
        refine Program.after_ite hsent₅ ?_
        have hrec := ih w₅
        rw [hsession₅, hF] at hrec
        exact hrec.mono (fun _ _ ⟨hnext, hlimit, hwrote'⟩ =>
          ⟨hsent₅.trans hnext, hlimit, hsent₅.wrote hwrote'⟩)
          fun _ _ hnext => hsent₅.trans hnext

end Px4.Card
