import Px4.Card.Proof.Exchange
import Px4.Card.Link

/-!
# Exchanges over the link

* `link_laws`: what the link gives a session that receives.
* `frame_of_decodeFrame`: what is no frame is not taken for one.
* `Exchanges`: what holds of a card, and of its answers, while a block is sent to it any number of
  times.
* `exchangeBlock_spec`: the answer of an exchange.
-/

namespace Px4.Card

open Lib (Program Plays Surely)
open Lib.Program (After)

/-! ## Frames -/

theorem eq_edcOf {useCrc : Bool} {header tail : List UInt8} (htail : tail.length = edcLength useCrc)
    (h : edcMatches useCrc (header ++ tail) = true) : tail = edcOf useCrc header := by
  unfold edcMatches at h
  unfold edcOf
  cases useCrc with
  | true =>
    have hlength : tail.length = 2 := htail
    match tail, hlength with
    | [high, low], _ =>
      have hsize : (header ++ [high, low]).length - 2 = header.length := by
        rw [List.length_append]
        rfl
      rw [if_pos rfl, hsize, List.drop_left, List.take_left] at h
      obtain ⟨rfl, rfl⟩ := (It930x.pair_iff high low (calculateCrc header)).1 (beq_iff_eq.1 h)
      rw [if_pos rfl]
      rfl
  | false =>
    have hlength : tail.length = 1 := htail
    match tail, hlength with
    | [check], _ =>
      rw [if_neg nofun, xorOf_append, beq_iff_eq, UInt8.xor_eq_zero_iff] at h
      rw [if_neg nofun, h]

/-- **What is no frame is not taken for one.** -/
theorem frame_of_decodeFrame {useCrc : Bool} {bytes : List UInt8} {block : Block}
    (h : decodeFrame useCrc bytes = some block) : block.data.length ≤ 254 ∧
    frameOf useCrc block <+: bytes := by
  match bytes with
  | [] => cases h
  | [_] => cases h
  | [_, _] => cases h
  | nad :: pcb :: length :: rest =>
    unfold decodeFrame at h
    dsimp only at h
    split at h
    · next hall =>
      obtain ⟨hlimit, hlength, rfl, hmatches⟩ := hall
      cases h
      rw [List.length_cons, List.length_cons, List.length_cons] at hlength
      have hdata : (rest.take length.toNat).length = length.toNat := by
        rw [List.length_take]
        omega
      have htake : (kT1Nad :: pcb :: length :: rest).take (3 + length.toNat + edcLength useCrc) =
          (kT1Nad :: pcb :: length :: rest.take length.toNat) ++
            (rest.drop length.toNat).take (edcLength useCrc) := by
        rw [Nat.add_assoc, Nat.add_comm 3]
        show kT1Nad :: pcb :: length :: rest.take (length.toNat + edcLength useCrc) = _
        rw [List.take_add]
        rfl
      have hheader : headerOf ⟨pcb, rest.take length.toNat⟩ = kT1Nad :: pcb :: length ::
          rest.take length.toNat := by
        unfold headerOf
        dsimp only
        rw [hdata, UInt8.ofNat_toNat]
      have htail : ((rest.drop length.toNat).take (edcLength useCrc)).length =
          edcLength useCrc := by
        rw [List.length_take, List.length_drop]
        omega
      rw [htake] at hmatches
      refine ⟨?_, ?_⟩
      · have hpos : 1 ≤ edcLength useCrc := by unfold edcLength; split <;> decide
        unfold kCardUartFrameMaxLength at hlimit
        rw [hdata]
        omega
      · unfold frameOf
        rw [hheader, ← eq_edcOf htail hmatches, ← htake]
        exact List.take_prefix _ _
    · cases h

theorem frameOf_injective {useCrc : Bool} {block block' : Block} (hdata : block.data.length ≤ 254)
    (hdata' : block'.data.length ≤ 254)
    (hlimit : frameLength useCrc block ≤ kCardUartFrameMaxLength)
    (h : frameOf useCrc block = frameOf useCrc block') : block = block' := by
  have hlimit' : frameLength useCrc block' ≤ kCardUartFrameMaxLength := by
    rw [← frameOf_length, ← h, frameOf_length]
    exact hlimit
  have hdecode := @decodeFrame_frameOf useCrc _ hdata
  rw [h, decodeFrame_frameOf hdata', if_pos hlimit, if_pos hlimit'] at hdecode
  exact (Option.some.inj hdecode).symm

/-! ## The link -/

theorem link_laws (p : CardParameters) (limit : Nat) :
    UartLaws (LinkStep p limit) Linked.due True where
  clock := by
    rintro t l _ a ⟨⟩
    next h => exact ⟨rfl, h⟩
  sleep := by
    rintro t l _ ms a ⟨⟩
    rfl
  ready := by
    rintro t l _ r later ⟨⟩
    next h => exact ⟨rfl, h⟩
  read := by
    rintro t l _ capacity bytes later ⟨⟩
    exact ⟨rfl, rfl⟩
  unready := by
    rintro t l _ e later ⟨⟩
    exact ⟨trivial, rfl⟩
  unread := by
    rintro t l _ capacity e later ⟨⟩
    exact ⟨trivial, rfl⟩

/-! ## Exchanges -/

/-- What holds of a card, and of its answers, while a block is sent to it any number of times. -/
structure Exchanges (block : Block) (J : Core → Prop) (Good : Block → Core → Prop) : Prop where
  reacts : ∀ {core answer core'}, J core → Reacts core block answer core' →
    J core' ∧ Good answer core'
  refused : ∀ {core answer}, J core → IsRequest answer core.expected → Good answer core

theorem IsRequest.not_wtx {block : Block} {number : Bool} (h : IsRequest block number) :
    block.pcb ≠ kT1SBlock ||| kT1SWtx := by
  rintro hpcb
  have hr := h.1
  rw [hpcb] at hr
  exact absurd hr (by decide)

theorem iBlock_isI (sequence chain : Bool) : isI (iBlock sequence chain) = true := by
  cases sequence <;> cases chain <;> decide

theorem isI_not_wtx {pcb : UInt8} (h : isI pcb = true) : pcb ≠ kT1SBlock ||| kT1SWtx := by
  rintro rfl
  exact absurd h (by decide)

theorem isI_of_mem_numbered {sequence : Bool} {parts : List (List UInt8)} {block : Block}
    (h : block ∈ numbered sequence parts) : isI block.pcb = true := by
  induction parts generalizing sequence with
  | nil => cases h
  | cons part parts ih =>
    cases parts with
    | nil =>
      rw [List.mem_singleton.1 h]
      exact iBlock_isI _ _
    | cons part' parts =>
      rcases List.mem_cons.1 h with rfl | h
      · exact iBlock_isI _ _
      · exact ih h

/-- The blocks that a card keeps are I-blocks. -/
def Core.Kept (core : Core) : Prop := ∀ block ∈ core.blocks, isI block.pcb = true

theorem Reacts.kept {core core' : Core} {block answer : Block} (h : Reacts core block answer core')
    (hkept : core.Kept) : core'.Kept := by
  cases h with
  | execute => exact fun _ => isI_of_mem_numbered
  | resynchronize => exact nofun
  | _ => exact hkept

theorem Core.Requested.isI {core : Core} {number : Bool} {position : Nat} {block : Block}
    (h : core.Requested number position block) (hkept : core.Kept) : isI block.pcb = true := by
  cases h with
  | again h _ => exact hkept block (List.mem_of_getElem? h)
  | next h _ => exact hkept block (List.mem_of_getElem? h)

/-- A card asks for more time only to put an answer off. -/
theorem Reacts.not_wtx {core core' : Core} {block answer : Block}
    (h : Reacts core block answer core') (hkept : core.Kept) :
    answer.pcb ≠ kT1SBlock ||| kT1SWtx := by
  cases h with
  | repeated _ _ h => exact h.not_wtx
  | part _ _ _ h => exact h.not_wtx
  | execute _ _ _ _ h => exact isI_not_wtx (isI_of_mem_numbered (List.mem_of_getElem? h))
  | requested _ h => exact isI_not_wtx (h.isI hkept)
  | unrequested _ _ h => exact h.not_wtx
  | resynchronize => decide
  | ifs => exact (by decide : ¬kT1SBlock ||| kT1SResponse ||| kT1SIfs = kT1SBlock ||| kT1SWtx)

/-- What a card has answered in an exchange: what is good, or a request for more time, with such an
answer put off. -/
inductive Answered (Good : Block → Core → Prop) (card : SmartCard) (answer : Block) : Prop
  | good : Good answer card.core → answer.pcb ≠ kT1SBlock ||| kT1SWtx → Answered Good card answer
  | later {multiplier : UInt8} {deferred : Block} : answer = wtxRequest multiplier →
      card.deferred = some deferred → Good deferred card.core →
      deferred.pcb ≠ kT1SBlock ||| kT1SWtx →
      Answered Good card answer

/-- What is on the link in an exchange: nothing, what is no frame, or the frame of an answer. -/
inductive OnLink (useCrc : Bool) (Good : Block → Core → Prop) (card : SmartCard)
    (queue : List UInt8) : Prop
  | nothing : queue = [] → OnLink useCrc Good card queue
  | corrupted : (∀ block, ¬frameOf useCrc block <+: queue) →
      queue.length ≤ kCardUartFrameMaxLength →
      OnLink useCrc Good card queue
  | frame {answer : Block} : Answered Good card answer → answer.data.length ≤ 254 →
      frameLength useCrc answer ≤ kCardUartFrameMaxLength →
      queue = frameOf useCrc answer → OnLink useCrc Good card queue

theorem OnLink.of_arrival {useCrc : Bool} {limit : Nat} {Good : Block → Core → Prop}
    {card : SmartCard} {answer : Block} {bytes : List UInt8} (h : Arrival useCrc limit answer bytes)
    (hlimit : limit ≤ kCardUartFrameMaxLength) (hanswer : Answered Good card answer) :
    OnLink useCrc Good card bytes := by
  cases h with
  | lost => exact .nothing rfl
  | corrupted h hlength => exact .corrupted h (Nat.le_trans hlength hlimit)
  | delivered hlength =>
    have hfits := Nat.le_trans hlength hlimit
    refine .frame hanswer ?_ hfits rfl
    have hpos : 1 ≤ edcLength useCrc := by unfold edcLength; split <;> decide
    unfold frameLength kCardUartFrameMaxLength at hfits
    omega

/-- The card when the block or an answer to a request for more time has been carried. -/
theorem Carries.onLink {useCrc : Bool} {limit : Nat} {block : Block} {J : Core → Prop}
    {Good : Block → Core → Prop} (hexchanges : Exchanges block J Good)
    (hJ : ∀ core, J core → core.Kept) (hlimit : limit ≤ kCardUartFrameMaxLength)
    (hfits : frameLength useCrc block ≤ kCardUartFrameMaxLength) (hdata : block.data.length ≤ 254)
    (hwtx : ∀ multiplier, block ≠ wtxBlock multiplier) {card card' : SmartCard} {bytes : List UInt8}
    (h : Carries useCrc limit card (frameOf useCrc block) card' bytes) (hcard : J card.core) :
    J card'.core ∧ OnLink useCrc Good card' bytes := by
  generalize hframe : frameOf useCrc block = frame at h
  cases h with
  | lost => exact ⟨hcard, .nothing rfl⟩
  | corrupted hrequest harrival =>
    exact ⟨hcard, .of_arrival harrival hlimit
      (.good (hexchanges.refused hcard hrequest) hrequest.not_wtx)⟩
  | @delivered _ block' _ _ hdata' hanswers harrival =>
    obtain rfl : block = block' := frameOf_injective hdata hdata' hfits hframe
    cases hanswers with
    | answer hreacts =>
      obtain ⟨hJ', hgood⟩ := hexchanges.reacts hcard hreacts
      exact ⟨hJ', .of_arrival harrival hlimit (.good hgood (hreacts.not_wtx (hJ _ hcard)))⟩
    | defer hreacts =>
      obtain ⟨hJ', hgood⟩ := hexchanges.reacts hcard hreacts
      exact ⟨hJ', .of_arrival harrival hlimit (.later rfl rfl hgood (hreacts.not_wtx (hJ _ hcard)))⟩
    | resume => exact absurd rfl (hwtx _)
    | again => exact absurd rfl (hwtx _)
    | idle => exact absurd rfl (hwtx _)

/-- A card does nothing else with an answer to a request for more time. -/
theorem not_reacts_wtxBlock {core core' : Core} {multiplier : UInt8} {answer : Block} :
    ¬Reacts core (wtxBlock multiplier) answer core' := by
  have hi : isI (kT1SBlock ||| kT1SResponse ||| kT1SWtx) ≠ true := by decide
  have hr : isR (kT1SBlock ||| kT1SResponse ||| kT1SWtx) ≠ true := by decide
  have hs : kT1SBlock ||| kT1SResponse ||| kT1SWtx ≠ kT1SBlock ||| kT1SIfs := by decide
  have hs' : kT1SBlock ||| kT1SResponse ||| kT1SWtx ≠ kT1SBlock ||| kT1SResynchronize := by decide
  intro h
  generalize hblock : wtxBlock multiplier = block at h
  have hpcb : kT1SBlock ||| kT1SResponse ||| kT1SWtx = block.pcb := congrArg Block.pcb hblock
  cases h with
  | repeated h => exact hi (hpcb ▸ h)
  | part h => exact hi (hpcb ▸ h)
  | execute h => exact hi (hpcb ▸ h)
  | requested h => exact hr (hpcb ▸ h)
  | unrequested h => exact hr (hpcb ▸ h)
  | resynchronize => exact hs' hpcb
  | ifs => exact hs hpcb

/-- The card when the answer to a request for more time has been carried. -/
theorem Carries.onLink_wtx {useCrc : Bool} {limit : Nat} {block : Block} {J : Core → Prop}
    {Good : Block → Core → Prop} (hexchanges : Exchanges block J Good)
    (hlimit : limit ≤ kCardUartFrameMaxLength) {card card' : SmartCard} {bytes : List UInt8}
    {multiplier : UInt8} {deferred : Block}
    (h : Carries useCrc limit card (frameOf useCrc (wtxBlock multiplier)) card' bytes)
    (hcard : J card.core) (hdeferred : card.deferred = some deferred)
    (hgood : Good deferred card.core) (hwtx : deferred.pcb ≠ kT1SBlock ||| kT1SWtx) : J card'.core ∧
    OnLink useCrc Good card' bytes := by
  have hfits : frameLength useCrc (wtxBlock multiplier) ≤ kCardUartFrameMaxLength := by
    cases useCrc
    · exact (by decide : 3 + 1 + edcLength false ≤ 255)
    · exact (by decide : 3 + 1 + edcLength true ≤ 255)
  generalize hframe : frameOf useCrc (wtxBlock multiplier) = frame at h
  cases h with
  | lost => exact ⟨hcard, .nothing rfl⟩
  | corrupted hrequest harrival =>
    exact ⟨hcard, .of_arrival harrival hlimit
      (.good (hexchanges.refused hcard hrequest) hrequest.not_wtx)⟩
  | @delivered _ block' _ _ hdata' hanswers harrival =>
    obtain rfl : wtxBlock multiplier = block' := 
      frameOf_injective (by decide : 1 ≤ 254) hdata' hfits hframe
    cases hanswers with
    | answer hreacts => exact absurd hreacts not_reacts_wtxBlock
    | defer hreacts => exact absurd hreacts not_reacts_wtxBlock
    | resume =>
      cases hdeferred
      exact ⟨hcard, .of_arrival harrival hlimit (.good hgood hwtx)⟩
    | again =>
      cases hdeferred
      exact ⟨hcard, .of_arrival harrival hlimit (.later rfl rfl hgood hwtx)⟩
    | idle => cases hdeferred

section
variable {p : CardParameters} {limit start : Nat} {first : Timed (Line Linked)}
  {block : Block} {J : Core → Prop}
  {Good : Block → Core → Prop}

/-- Nothing is on the link, or the time is over. -/
def Settled (J : Core → Prop) (deadline time : Nat) (l : Line Linked) : Prop :=
  l.queue = [] ∧ J l.other.card.core ∨ deadline ≤ min time timeMax

/-- A block has been sent. -/
structure Flying (p : CardParameters) (J : Core → Prop) (Good : Block → Core → Prop)
    (due : Nat) (l : Line Linked) :
    Prop where
  core : J l.other.card.core
  onLink : OnLink p.useCrc Good l.other.card l.queue
  due : l.other.due = due

/-- An answer has been received. -/
structure Landed (J : Core → Prop) (Good : Block → Core → Prop) (answer : Block)
    (l : Line Linked) : Prop where
  queue : l.queue = []
  core : J l.other.card.core
  answered : Answered Good l.other.card answer

theorem OnLink.le {useCrc : Bool} {card : SmartCard} {queue : List UInt8}
    (h : OnLink useCrc Good card queue) :
    queue.length ≤ kCardUartFrameMaxLength := by
  cases h with
  | nothing h =>
    rw [h]
    exact Nat.zero_le _
  | corrupted _ h => exact h
  | frame _ _ h hqueue => rwa [hqueue, frameOf_length]

theorem OnLink.decoded {useCrc : Bool} {card : SmartCard} {queue : List UInt8}
    (h : OnLink useCrc Good card queue) {answer : Block}
    (hanswer : decodeFrame useCrc (queue.take kCardUartFrameMaxLength) = some answer) :
    Answered Good card answer := by
  cases h with
  | nothing h =>
    rw [h] at hanswer
    cases hanswer
  | corrupted h _ =>
    exact absurd ((frame_of_decodeFrame hanswer).2.trans (List.take_prefix _ _)) (h answer)
  | frame h hdata hfits hqueue =>
    rw [hqueue, decodeFrame_frameOf hdata, if_pos hfits] at hanswer
    cases hanswer
    exact h

/-- What is received of a block that has been sent. -/
theorem receiveBlock_flying {fuel deadline due : Nat} {w : World CardSession}
    (hcrc : w.session.useCrc = p.useCrc)
    (hw : Holds (LinkStep p limit) start first w (Flying p J Good due)) :
    After (receiveBlock fuel deadline) w
      (fun answer w' => Silent w w' ∧ Holds (LinkStep p limit) start first w'
        (Landed J Good answer))
      fun stop w' => Silent w w' ∧ Holds (LinkStep p limit) start first w' (StopHolds (fun l =>
        l.queue = [] ∧ J l.other.card.core ∨ deadline ≤ min w'.time timeMax ∧
        w'.time < due) True stop) := by
  refine ((Quiet.receiveBlock fuel deadline w).and ((link_laws p limit).receiveBlock_spec hw)).mono
    (fun answer w' ⟨hsilent, h⟩ => ⟨hsilent, ?_⟩) fun stop w' ⟨hsilent, h⟩ => ⟨hsilent, ?_⟩
  · refine h.mono fun l' ⟨l, hl, hdecode, hdrained⟩ => ?_
    rw [hcrc] at hdecode
    rw [hdrained hl.onLink.le]
    exact ⟨rfl, hl.core, hl.onLink.decoded hdecode⟩
  · cases stop with
    | undefined => exact h.mono fun _ _ => trivial
    | failure e =>
      refine h.mono fun l' hl' => ?_
      cases hl' with
      | unreadable hl _ hdrained =>
        rw [hdrained hl.onLink.le]
        exact .inl ⟨rfl, hl.core⟩
      | expired h =>
        obtain ⟨hl, hdeadline, hdue⟩ := h
        by_cases hqueue : l'.queue = []
        · exact .inl ⟨hqueue, hl.core⟩
        · exact .inr ⟨hdeadline, hl.due ▸ hdue hqueue⟩

/-- The good answer of an exchange. -/
structure Concluded (J : Core → Prop) (Good : Block → Core → Prop) (answer : Block)
    (l : Line Linked) : Prop where
  queue : l.queue = []
  core : J l.other.card.core
  good : Good answer l.other.card.core

/-- What has been received, or why not. -/
def Response (Answer : Block → Line Linked → Prop) (J : Core → Prop) (deadline time : Nat) :
    Result Block → Line Linked → Prop
  | .ok answer => Answer answer
  | .error _ => Settled J deadline time

/-- A block that is sent when nothing is on the link. -/
def Sends (p : CardParameters) (limit : Nat) (block : Block) (J : Core → Prop)
    (Good : Block → Core → Prop) (P : Line Linked → Prop) : Prop :=
  ∀ l card bytes, P l → Carries p.useCrc limit l.other.card (frameOf p.useCrc block) card bytes →
    l.queue = [] ∧ J card.core ∧ OnLink p.useCrc Good card bytes

/-- A failed write. -/
theorem Sends.unwritten {P : Line Linked → Prop} (h : Sends p limit block J Good P)
    {w : World CardSession} {deadline : Nat} {e : Error} {later : Nat}
    (hw : Holds (LinkStep p limit) start first w P) :
    Holds (LinkStep p limit) start first
      (w.answered (.writeData (frameOf p.useCrc block)) (.error e, later))
      (Settled J deadline (w.answered (.writeData (frameOf p.useCrc block))
        (.error e, later)).time) := by
  refine (hw.answered (.writeData _) (.error e, later)).mono ?_
  rintro _ ⟨l, hl, hstep⟩
  cases hstep with
  | unwritten _ _ _ card bytes hcarries =>
    obtain ⟨hqueue, hcore, -⟩ := h l card bytes hl hcarries
    exact .inl ⟨hqueue, hcore⟩

/-- A write. -/
theorem Sends.written {P : Line Linked → Prop} (h : Sends p limit block J Good P)
    {w : World CardSession} {later : Nat} (hw : Holds (LinkStep p limit) start first w P) :
    Holds (LinkStep p limit) start first
      (w.answered (.writeData (frameOf p.useCrc block)) (.ok (), later))
      (Flying p J Good
        ((w.answered (.writeData (frameOf p.useCrc block)) (.ok (), later)).time +
          p.blockTimeoutMs * waitingFactor (frameOf p.useCrc block))) := by
  refine (hw.answered (.writeData _) (.ok (), later)).mono ?_
  rintro _ ⟨l, hl, hstep⟩
  cases hstep with
  | write _ _ card bytes hcarries =>
    obtain ⟨hqueue, hcore, honLink⟩ := h l card bytes hl hcarries
    refine ⟨hcore, ?_, rfl⟩
    rw [hqueue]
    exact honLink

/-- An answer to another block than S(WTX response) has no more time than the block timeout. -/
theorem waitingFactor_frameOf {useCrc : Bool} {block : Block}
    (h : block.pcb ≠ kT1SBlock ||| kT1SResponse ||| kT1SWtx) :
    waitingFactor (frameOf useCrc block) = 1 := by
  unfold frameOf headerOf
  rw [List.cons_append, List.cons_append, List.cons_append]
  generalize block.data ++ edcOf useCrc _ = rest
  cases rest with
  | nil => rfl
  | cons _ _ => exact if_neg h

/-- **More time for an answer.** -/
theorem extendWaiting_spec (hexchanges : Exchanges block J Good)
    (hlimit : limit ≤ kCardUartFrameMaxLength) {fuel deadline rounds : Nat}
    {response : Result Block} {w : World CardSession} (hcrc : w.session.useCrc = p.useCrc)
    (hw : Holds (LinkStep p limit) start first w
      (Response (Landed J Good) J deadline w.time response)) :
    After (extendWaiting fuel deadline rounds response) w
      (fun result w' =>
        Holds (LinkStep p limit) start first w'
          (Response (Concluded J Good) J deadline w'.time result))
      fun stop w' =>
        Holds (LinkStep p limit) start first w'
          (StopHolds (Settled J deadline w'.time) True stop) := by
  induction rounds generalizing response w with
  | zero => exact hw.mono fun _ _ => trivial
  | succ rounds ih =>
    cases response with
    | error e => exact hw
    | ok answer =>
      unfold extendWaiting
      split
      · next hwtx =>
        have hlater : Holds (LinkStep p limit) start first w fun l => l.queue = [] ∧
            J l.other.card.core ∧
            ∃ multiplier deferred, answer = wtxRequest multiplier ∧
            l.other.card.deferred = some deferred ∧
              Good deferred l.other.card.core ∧ deferred.pcb ≠ kT1SBlock ||| kT1SWtx := by
          refine hw.mono fun l hl => ⟨hl.queue, hl.core, ?_⟩
          cases hl.answered with
          | good _ hne => exact absurd hwtx hne
          | later hanswer hdeferred hgood hne => exact ⟨_, _, hanswer, hdeferred, hgood, hne⟩
        have hsettled : Holds (LinkStep p limit) start first w (Settled J deadline w.time) :=
          hlater.mono fun l hl => .inl ⟨hl.1, hl.2.1⟩
        split
        · next multiplier hdata =>
          have hanswer : answer = wtxRequest multiplier := by
            obtain ⟨pcb, data⟩ := answer
            dsimp only at hwtx hdata
            rw [hwtx, hdata]
            rfl
          split
          · exact hsettled
          have hsends : Sends p limit (wtxBlock multiplier) J Good fun l => l.queue = [] ∧
              J l.other.card.core ∧
              ∃ multiplier deferred, answer = wtxRequest multiplier ∧
              l.other.card.deferred = some deferred ∧
                Good deferred l.other.card.core ∧ deferred.pcb ≠ kT1SBlock ||| kT1SWtx := by
            rintro l card bytes ⟨hqueue, hcore, _, deferred, _, hdeferred, hgood, hne⟩ hcarries
            exact ⟨hqueue, hcarries.onLink_wtx hexchanges hlimit hcore hdeferred hgood hne⟩
          refine (Program.after_bind _).2 (after_sendBlock hsettled fun result later _ => ?_)
          rw [hcrc]
          cases result with
          | error e => exact hsends.unwritten hlater
          | ok _ =>
            refine (Program.after_bind _).2 (after_attempt ?_)
            refine (receiveBlock_flying (by exact hcrc)
              (@Sends.written _ _ _ _ _ _ _ _ hsends _ later hlater)).mono
              (fun answer' w' ⟨hsilent, hlanded⟩ => ?_) fun stop w' ⟨hsilent, hstop⟩ => ?_
            · exact ih (by rw [hsilent.session]; exact hcrc) hlanded
            · cases stop with
              | undefined => exact hstop
              | failure e =>
                refine @ih (.error e) w' (by rw [hsilent.session]; exact hcrc)
                  (hstop.mono fun l hl => ?_)
                exact hl.imp_right And.left
        · exact hsettled
      · next hnotwtx =>
        refine hw.mono fun l hl => ⟨hl.queue, hl.core, ?_⟩
        cases hl.answered with
        | good hgood _ => exact hgood
        | later hanswer _ _ _ => exact absurd (congrArg Block.pcb hanswer) hnotwtx

theorem sends_block (hexchanges : Exchanges block J Good) (hJ : ∀ core, J core → core.Kept)
    (hlimit : limit ≤ kCardUartFrameMaxLength)
    (hfits : frameLength p.useCrc block ≤ kCardUartFrameMaxLength)
    (hwtx : block.pcb ≠ kT1SBlock ||| kT1SResponse ||| kT1SWtx) :
    Sends p limit block J Good fun l => l.queue = [] ∧ J l.other.card.core := by
  intro l card bytes ⟨hqueue, hcore⟩ hcarries
  have hdata : block.data.length ≤ 254 := by
    have hpos : 1 ≤ edcLength p.useCrc := by unfold edcLength; split <;> decide
    unfold frameLength kCardUartFrameMaxLength at hfits
    omega
  refine ⟨hqueue, hcarries.onLink hexchanges hJ hlimit hfits hdata
    (fun multiplier heq => hwtx ?_) hcore⟩
  rw [heq]
  rfl

/-- **The answer of an exchange.** -/
theorem exchangeBlock_spec {pcb : UInt8} {data : ByteView}
    (hexchanges : Exchanges ⟨pcb, data.bytes⟩ J Good) (hJ : ∀ core, J core → core.Kept)
    (hlimit : limit ≤ kCardUartFrameMaxLength) (hwtx : pcb ≠ kT1SBlock ||| kT1SResponse ||| kT1SWtx)
    {fuel deadline maxRetries : Nat} (hdeadline : deadline ≤ timeMax) {w : World CardSession}
    (hcrc : w.session.useCrc = p.useCrc) (htimeout : w.session.blockTimeoutMs = p.blockTimeoutMs)
    (hw : Holds (LinkStep p limit) start first w (Settled J deadline w.time)) :
    After (exchangeBlock fuel pcb data deadline maxRetries) w
      (fun answer w' => w'.session = w.session ∧
        Holds (LinkStep p limit) start first w' (Concluded J Good answer))
      fun stop w' => w'.session = w.session ∧
        Holds (LinkStep p limit) start first w'
          (StopHolds (Settled J deadline w'.time) True stop) := by
  refine (@Program.After.and _ _ _ _ _ _ (fun answer w' =>
      Holds (LinkStep p limit) start first w' (Concluded J Good answer)) _ (fun stop w' =>
      Holds (LinkStep p limit) start first w' (StopHolds (Settled J deadline w'.time) True stop))
    (exchangeBlock_calls fuel pcb data deadline maxRetries w) ?_).mono
    (fun _ _ h => ⟨h.1.1.session, h.2⟩) fun _ _ h => ⟨h.1.session, h.2⟩
  unfold exchangeBlock
  have hexpire {w w' : World CardSession} (hsilent : Silent w w')
      (h : Holds (LinkStep p limit) start first w'
        (Expired Linked.due deadline (Settled J deadline w.time) w'.time)) :
      Holds (LinkStep p limit) start first w' (Settled J deadline w'.time) :=
    h.mono fun _ hl => hl.1.imp_right fun hle => by have := hsilent.time; omega
  induction maxRetries generalizing w with
  | zero =>
    refine (Program.after_bind _).2
      ((link_laws p limit).after_deadlineExpired hw (fun w₁ hsilent hexpired => ?_)
      fun w₁ hsilent _ hlive => ?_)
    · exact hexpire hsilent hexpired
    · exact hlive.mono fun _ hl => hl.imp_right fun hle => by have := hsilent.time; omega
  | succ left ih =>
    unfold exchangeFrom
    refine (Program.after_bind _).2
      ((link_laws p limit).after_deadlineExpired hw (fun w₁ hsilent hexpired => ?_)
      fun w₁ hsilent hnow hlive => ?_)
    · exact hexpire hsilent hexpired
    rw [if_neg Bool.false_ne_true]
    rw [← hsilent.session] at hcrc htimeout
    have hidle : Holds (LinkStep p limit) start first w₁ fun l => l.queue = [] ∧
        J l.other.card.core :=
      hlive.mono fun l hl => hl.resolve_right fun hle => hnow (by have := hsilent.time; omega)
    refine (Program.after_bind _).2 (after_sendBlock (hidle.mono fun _ => .inl)
      fun result later hfits => ?_)
    rw [hcrc] at hfits ⊢
    have hsends := sends_block (p := p) hexchanges hJ hlimit hfits hwtx
    cases result with
    | error e => exact hsends.unwritten hidle
    | ok _ =>
      have hflying := @Sends.written _ _ _ _ _ _ _ _ hsends _ later hidle
      rw [@waitingFactor_frameOf _ ⟨pcb, data.bytes⟩ hwtx, Nat.mul_one] at hflying
      dsimp only
      have hcrc₂ : (w₁.answered (.writeData (frameOf p.useCrc ⟨pcb, data.bytes⟩))
          (.ok (), later)).session.useCrc =
        p.useCrc := hcrc
      have htimeout₂ : (w₁.answered (.writeData (frameOf p.useCrc ⟨pcb, data.bytes⟩))
        (.ok (), later)).session.blockTimeoutMs = p.blockTimeoutMs := htimeout
      generalize w₁.answered (.writeData (frameOf p.useCrc ⟨pcb, data.bytes⟩)) (.ok (), later) = w₂
        at hflying hcrc₂ htimeout₂ ⊢
      refine (Program.after_bind _).2 (after_fields.2 ((Program.after_bind _).2 ?_))
      rw [htimeout₂]
      refine (link_laws p limit).after_deadlineAfter hflying fun w₃ hsilent₃ hflying₃ => ?_
      have hcrc₃ : w₃.session.useCrc = p.useCrc := by rw [hsilent₃.session, hcrc₂]
      have htimeout₃ : w₃.session.blockTimeoutMs = p.blockTimeoutMs := by
        rw [hsilent₃.session, htimeout₂]
      have hafter := hsilent₃.time
      have hreceived : After (attempt (receiveBlock fuel
          (min deadline (deadlineFrom (min w₃.time timeMax) p.blockTimeoutMs)))) w₃
          (fun response w₄ => Silent w₃ w₄ ∧ Holds (LinkStep p limit) start first w₄
            (Response (Landed J Good) J deadline w₄.time response))
          fun stop w₄ => Holds (LinkStep p limit) start first w₄
            (StopHolds (Settled J deadline w₄.time) True stop) := by
        refine after_attempt ((receiveBlock_flying hcrc₃ hflying₃).mono (fun answer w₄ h => h)
          fun stop w₄ h => ?_)
        obtain ⟨hsilent₄, hstop⟩ := h
        cases stop with
        | undefined => exact hstop
        | failure e =>
          -- an answer that is on the link is there before the block timeout, so that the whole time
          -- is over
          refine ⟨hsilent₄, hstop.mono fun l hl => hl.imp_right fun h => ?_⟩
          obtain ⟨hover, hdue⟩ := h
          unfold deadlineFrom at hover
          split at hover <;> omega
      refine (Program.after_bind _).2 (hreceived.mono (fun response w₄ h => ?_) fun _ _ h => h)
      obtain ⟨hsilent₄, hresponse⟩ := h
      have hcrc₄ : w₄.session.useCrc = p.useCrc := by rw [hsilent₄.session, hcrc₃]
      have htimeout₄ : w₄.session.blockTimeoutMs = p.blockTimeoutMs := by
        rw [hsilent₄.session, htimeout₃]
      refine (Program.after_bind _).2
        (((extendWaiting_calls fuel deadline fuel ⟨pcb, data.bytes⟩ response w₄).and
        (extendWaiting_spec hexchanges hlimit hcrc₄ hresponse)).mono (fun result w₅ h => ?_)
        fun _ _ h => h.2)
      obtain ⟨hsent, hresult⟩ := h
      cases result with
      | ok answer => exact hresult
      | error e =>
        refine Program.after_ite hresult (ih ?_ ?_ hresult)
        · rw [hsent.session, hcrc₄]
        · rw [hsent.session, htimeout₄]

end

end Px4.Card
