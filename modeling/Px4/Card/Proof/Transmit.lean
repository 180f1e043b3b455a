import Px4.Card.Proof.Link

/-!
# Commands and responses over the link

* `numbered_getElem?`: the blocks of a response.
* `reacts_iBlock_cases`, `reacts_rBlock_cases`: what a card does with I- and R-blocks.
* `sendFrom_spec`: the parts of a command are taken one after the other, and the last one executes
  it, once.
* `receiveResponse_spec`: the blocks of the response are received one after the other.
-/

namespace Px4.Card

open Lib (Program Plays Surely)
open Lib.Program (After)

/-! ## Sequence numbers -/

/-- A sequence number after some turns. -/
def turned (sequence : Bool) : Nat → Bool
  | 0 => sequence
  | count + 1 => turned (!sequence) count

theorem turned_succ (sequence : Bool) (count : Nat) :
    turned sequence (count + 1) = !turned sequence count := by
  induction count generalizing sequence with
  | zero => rfl
  | succ count ih => exact ih (!sequence)

theorem sequenceAfter_eq {α : Type} (sequence : Bool) (blocks : List α) :
    sequenceAfter sequence blocks = turned sequence blocks.length := by
  induction blocks generalizing sequence with
  | nil => rfl
  | cons block blocks ih => exact ih (!sequence)

/-- **The blocks of a response.** -/
theorem numbered_getElem? {sequence : Bool} {parts : List (List UInt8)} {i : Nat} {block : Block}
    (h : (numbered sequence parts)[i]? = some block) :
    ∃ part, parts[i]? = some part ∧
      block = ⟨iBlock (turned sequence i) (decide (i + 1 < parts.length)), part⟩ := by
  induction parts generalizing sequence i with
  | nil => cases h
  | cons part parts ih =>
    cases parts with
    | nil =>
      cases i with
      | zero =>
        cases h
        exact ⟨part, rfl, rfl⟩
      | succ i => cases h
    | cons part' parts =>
      cases i with
      | zero =>
        cases h
        refine ⟨part, rfl, ?_⟩
        rw [decide_eq_true (by simp)]
        rfl
      | succ i =>
        obtain ⟨part'', hpart, hblock⟩ := @ih (!sequence) i h
        refine ⟨part'', hpart, ?_⟩
        rw [hblock, List.length_cons (a := part)]
        congr 2
        exact decide_eq_decide.2 (by omega)

theorem sequenceOf_iBlock (sequence chain : Bool) (data : List UInt8) :
    sequenceOf ⟨iBlock sequence chain, data⟩ = sequence := by
  show (iBlock sequence chain &&& kT1ISequence != 0) = sequence
  cases sequence <;> cases chain <;> decide

theorem chained_iBlock (sequence chain : Bool) (data : List UInt8) :
    chained ⟨iBlock sequence chain, data⟩ = chain := by
  show (iBlock sequence chain &&& kT1IChain != 0) = chain
  cases sequence <;> cases chain <;> decide

theorem isR_iBlock (sequence chain : Bool) : isR (iBlock sequence chain) ≠ true := by
  cases sequence <;> cases chain <;> decide

theorem isI_rBlock (number : Bool) : isI (rBlock number) ≠ true := by cases number <;> decide

theorem requestOf_rBlock (number : Bool) (data : List UInt8) :
    requestOf ⟨rBlock number, data⟩ = number := by
  show (rBlock number &&& kT1RSequence != 0) = number
  cases number <;> decide

/-- No block is an R-block and an I-block. -/
theorem isI_of_isR {pcb : UInt8} (h : isR pcb = true) : isI pcb = false := by
  have hpcb : pcb &&& 0xc0 = kT1RBlock := beq_iff_eq.1 h
  have hmask : pcb &&& 0x80 = kT1RBlock &&& 0x80 := by
    rw [← hpcb, UInt8.and_assoc]
    rfl
  unfold isI
  rw [hmask]
  rfl

/-! ## What a card does -/

/-- **What a card does with an I-block.** -/
theorem reacts_iBlock_cases {core core' : Core} {sequence chain : Bool}
    {data : List UInt8} {answer : Block}
    (h : Reacts core ⟨iBlock sequence chain, data⟩ answer core') :
    (sequence ≠ core.expected ∧ IsRequest answer core.expected ∧ core' = core) ∨
      (sequence = core.expected ∧ chain = true ∧ IsRequest answer (!core.expected) ∧
        core' = core.extended data) ∨
      (sequence = core.expected ∧ chain = false ∧ ∃ parts,
        (numbered core.next parts)[0]? = some answer ∧
        core' = core.responding data parts) := by
  generalize hblock : (⟨iBlock sequence chain, data⟩ : Block) = block at h
  have hpcb : iBlock sequence chain = block.pcb := congrArg Block.pcb hblock
  have hsequence : sequenceOf block = sequence := hblock ▸ sequenceOf_iBlock sequence chain data
  have hchained : chained block = chain := hblock ▸ chained_iBlock sequence chain data
  have hdata : block.data = data := hblock ▸ rfl
  cases h with
  | repeated _ hne hrequest => exact .inl ⟨hsequence ▸ hne, hrequest, rfl⟩
  | part _ heq hchain hrequest =>
    exact .inr (.inl ⟨hsequence ▸ heq, hchained ▸ hchain, hrequest, by rw [hdata]⟩)
  | execute _ heq hchain _ hfirst =>
    exact .inr (.inr ⟨hsequence ▸ heq, hchained ▸ hchain, _, hfirst, by rw [hdata]⟩)
  | requested hr => exact absurd (hpcb ▸ hr) (isR_iBlock sequence chain)
  | unrequested hr => exact absurd (hpcb ▸ hr) (isR_iBlock sequence chain)
  | resynchronize => exact absurd hpcb (by cases sequence <;> cases chain <;> decide)
  | ifs =>
    have hne : iBlock sequence chain ≠ kT1SBlock ||| kT1SIfs := by cases sequence
      <;> cases chain <;> decide
    exact absurd hpcb hne

/-- **What a card does with an R-block.** -/
theorem reacts_rBlock_cases {core core' : Core} {number : Bool} {answer : Block}
    (h : Reacts core ⟨rBlock number, []⟩ answer core') :
    (∃ position, core.Requested number position answer ∧ core' = { core with position }) ∨
      IsRequest answer core.expected ∧ core' = core := by
  generalize hblock : (⟨rBlock number, []⟩ : Block) = block at h
  have hpcb : rBlock number = block.pcb := congrArg Block.pcb hblock
  have hnumber : requestOf block = number := hblock ▸ requestOf_rBlock number []
  cases h with
  | repeated hi => exact absurd (hpcb ▸ hi) (isI_rBlock number)
  | part hi => exact absurd (hpcb ▸ hi) (isI_rBlock number)
  | execute hi => exact absurd (hpcb ▸ hi) (isI_rBlock number)
  | requested _ hrequested => exact .inl ⟨_, hnumber ▸ hrequested, rfl⟩
  | unrequested _ _ hrequest => exact .inr ⟨hrequest, rfl⟩
  | resynchronize => exact absurd hpcb (by cases number <;> decide)
  | ifs =>
    have hne : rBlock number ≠ kT1SBlock ||| kT1SIfs := by cases number <;> decide
    exact absurd hpcb hne

/-- A card that has taken some parts of a command. -/
structure Taking (executed : List (List UInt8 × List UInt8)) (expected next : Bool)
    (command : List UInt8) (core : Core) : Prop where
  kept : core.Kept
  executed : core.executed = executed
  expected : core.expected = expected
  next : core.next = next
  command : core.command = command

/-- A card that has executed a command and sent its response up to some block. -/
structure Responding (executed : List (List UInt8 × List UInt8)) (apdu : List UInt8)
    (expected next : Bool) (parts : List (List UInt8)) (position : Nat) (core : Core) : Prop where
  executed : core.executed = executed ++ [(apdu, parts.flatten)]
  expected : core.expected = expected
  blocks : core.blocks = numbered next parts
  position : core.position = position
  command : core.command = []
  next : core.next = turned next parts.length

/-- A card that has sent a block of its response, after those with some bytes. -/
def Arrived (executed : List (List UInt8 × List UInt8)) (apdu : List UInt8)
    (expected next : Bool) (position : Nat) (response : List UInt8) (block : Block)
    (core : Core) : Prop :=
  ∃ parts, (parts.take position).flatten = response ∧
    Responding executed apdu expected next parts position core ∧
    (numbered next parts)[position]? = some block

theorem Responding.kept {executed : List (List UInt8 × List UInt8)} {apdu : List UInt8}
    {expected next : Bool} {parts : List (List UInt8)} {position : Nat} {core : Core}
    (h : Responding executed apdu expected next parts position core) : core.Kept := by
  unfold Core.Kept
  rw [h.blocks]
  exact fun _ => isI_of_mem_numbered

/-- Of the last block that was sent and the next one, the one with a sequence number. -/
theorem Responding.requested {executed : List (List UInt8 × List UInt8)} {apdu : List UInt8}
    {expected next : Bool} {parts : List (List UInt8)} {position position' wanted : Nat}
    {answer : Block} {core : Core} (h : Responding executed apdu expected next parts position core)
    (hposition : position = wanted - 1 ∨ position = wanted)
    (hrequested : core.Requested (turned next wanted) position' answer) :
    position' = wanted ∧ (numbered next parts)[wanted]? = some answer := by
  have hnear {i : Nat} (hi : (numbered next parts)[i]? = some answer) (hle : i ≤ wanted + 1)
      (hge : wanted ≤ i + 1)
      (hsequence : sequenceOf answer = turned next wanted) :
      i = wanted ∧ (numbered next parts)[wanted]? = some answer := by
    obtain ⟨part, -, rfl⟩ := numbered_getElem? hi
    rw [sequenceOf_iBlock] at hsequence
    obtain rfl : i = wanted := by
      by_contra hne
      rcases Nat.lt_or_gt_of_ne hne with hlt | hlt
      · obtain rfl : wanted = i + 1 := by omega
        rw [turned_succ] at hsequence
        exact absurd hsequence (by simp)
      · obtain rfl : i = wanted + 1 := by omega
        rw [turned_succ] at hsequence
        exact absurd hsequence (by simp)
    exact ⟨rfl, hi⟩
  cases hrequested with
  | again hblock hsequence =>
    rw [h.blocks, h.position] at hblock
    rw [h.position]
    exact hnear hblock (by omega) (by omega) hsequence
  | next hblock hsequence =>
    rw [h.blocks, h.position] at hblock
    rw [h.position]
    exact hnear hblock (by omega) (by omega) hsequence

/-! ## Exchanges with a card -/

section
variable {executed : List (List UInt8 × List UInt8)} {expected next : Bool}
  {command part apdu : List UInt8}

/-- A part of a command that is not its last one. -/
theorem exchanges_part : Exchanges ⟨iBlock expected true, part⟩
    (fun core => Taking executed expected next command core ∨
      Taking executed (!expected) next (command ++ part) core)
    fun answer core => IsRequest answer core.expected where
  reacts := by
    intro core answer core' hcore hreacts
    rcases reacts_iBlock_cases hreacts with ⟨hne, hrequest, rfl⟩ |
      ⟨heq, -, hrequest, rfl⟩ | ⟨-, hchain, -⟩
    · exact ⟨hcore, hrequest⟩
    · rcases hcore with htaking | htaking
      · refine ⟨.inr ⟨htaking.kept, htaking.executed, ?_, htaking.next, ?_⟩, hrequest⟩
        · rw [← htaking.expected]
          rfl
        · rw [← htaking.command]
          rfl
      · rw [htaking.expected] at heq
        exact absurd heq (by simp)
    · cases hchain
  refused := fun _ h => h

/-- The last part of a command, which the card executes once. -/
theorem exchanges_last : Exchanges ⟨iBlock expected false, part⟩
    (fun core => Taking executed expected next command core ∨
      ∃ parts, Responding executed (command ++ part) (!expected) next parts 0 core)
    fun answer core => IsRequest answer core.expected ∨
      Arrived executed (command ++ part) (!expected) next 0 [] answer core where
  reacts := by
    intro core answer core' hcore hreacts
    rcases reacts_iBlock_cases hreacts with ⟨hne, hrequest, rfl⟩ | ⟨-, hchain, -⟩ |
      ⟨heq, -, parts, hfirst, rfl⟩
    · exact ⟨hcore, .inl hrequest⟩
    · cases hchain
    · rcases hcore with htaking | ⟨_, hresponding⟩
      · have hresponding : Responding executed (command ++ part) (!expected) next parts 0
            (core.responding part parts) := by
          rw [← htaking.executed, ← htaking.command, ← htaking.expected, ← htaking.next]
          exact ⟨rfl, rfl, rfl, rfl, rfl, sequenceAfter_eq _ _⟩
        refine ⟨.inr ⟨parts, hresponding⟩, .inr ⟨parts, rfl, hresponding, ?_⟩⟩
        rw [← htaking.next]
        exact hfirst
      · rw [hresponding.expected] at heq
        exact absurd heq (by simp)
  refused := fun _ h => .inl h

/-- A request for a block of the response. -/
theorem exchanges_request {position : Nat} {response : List UInt8} :
    Exchanges ⟨rBlock (turned next position), []⟩
    (fun core => ∃ parts position', (parts.take position).flatten = response ∧
      (position' = position - 1 ∨ position' = position) ∧
        Responding executed apdu expected next parts position' core)
    fun answer core => IsRequest answer core.expected ∨
      Arrived executed apdu expected next position response answer core where
  reacts := by
    rintro core answer core' ⟨parts, position', htaken, hposition, hresponding⟩ hreacts
    rcases reacts_rBlock_cases hreacts with ⟨moved, hrequested, rfl⟩ | ⟨hrequest, rfl⟩
    · obtain ⟨rfl, hblock⟩ := hresponding.requested hposition hrequested
      have hmoved : Responding executed apdu expected next parts moved
          { core with position := moved } :=
        ⟨hresponding.executed, hresponding.expected, hresponding.blocks, rfl,
          hresponding.command, hresponding.next⟩
      exact ⟨⟨parts, moved, htaken, .inr rfl, hmoved⟩, .inr ⟨parts, htaken, hmoved, hblock⟩⟩
    · exact ⟨⟨parts, position', htaken, hposition, hresponding⟩, .inl hrequest⟩
  refused := fun _ h => .inl h

end

/-! ## Commands -/

/-- The session keeps what the ATR of the card says. -/
structure Speaks (p : CardParameters) (session : CardSession) : Prop where
  useCrc : session.useCrc = p.useCrc
  cardIfsc : session.cardIfsc = p.ifsc
  blockTimeoutMs : session.blockTimeoutMs = p.blockTimeoutMs

section
variable {p : CardParameters} {limit start fuel deadline : Nat} {first : Timed (Line Linked)}
  {J : Core → Prop} {Good : Block → Core → Prop} {w : World CardSession}

/-- Nothing is on the link, and the card is so. -/
def Idle (J : Core → Prop) (l : Line Linked) : Prop := l.queue = [] ∧ J l.other.card.core

/-- An exchange when nothing is on the link. -/
theorem exchangeBlock_idle {pcb : UInt8} {data : ByteView}
    (hexchanges : Exchanges ⟨pcb, data.bytes⟩ J Good) (hJ : ∀ core, J core → core.Kept)
    (hlimit : limit ≤ kCardUartFrameMaxLength) (hwtx : pcb ≠ kT1SBlock ||| kT1SResponse ||| kT1SWtx)
    (hdeadline : deadline ≤ timeMax) {maxRetries : Nat} (hspeaks : Speaks p w.session)
    (hw : Holds (LinkStep p limit) start first w (Idle J)) :
    After (exchangeBlock fuel pcb data deadline maxRetries) w
      (fun answer w' => w'.session = w.session ∧
        Holds (LinkStep p limit) start first w' (Idle fun core => J core ∧ Good answer core))
      fun _ _ => True :=
  (exchangeBlock_spec hexchanges hJ hlimit hwtx hdeadline hspeaks.useCrc hspeaks.blockTimeoutMs
    (hw.mono fun _ => .inl)).mono
    (fun _ _ ⟨hsession, h⟩ => ⟨hsession, h.mono fun _ hl => ⟨hl.queue, hl.core, hl.good⟩⟩)
    fun _ _ _ => trivial

/-- **A part of a command is accepted** with the request for the next one, or with a response. -/
theorem sendChunk_spec {pcb : UInt8} {data : ByteView} {hasMore : Bool}
    (hexchanges : Exchanges ⟨pcb, data.bytes⟩ J Good)
    (hJ : ∀ core, J core → core.Kept) (hlimit : limit ≤ kCardUartFrameMaxLength)
    (hwtx : pcb ≠ kT1SBlock ||| kT1SResponse ||| kT1SWtx)
    (hdeadline : deadline ≤ timeMax) {left : Nat} (hspeaks : Speaks p w.session)
    (hw : Holds (LinkStep p limit) start first w (Idle J)) :
    After (sendChunk fuel pcb data hasMore deadline left) w
      (fun accepted w' => w'.session = w.session ∧ ∀ block, accepted = some block →
        (IsRequest block (!w.session.sendSequence) ∨ isI block.pcb = true ∧ hasMore = false) ∧
          Holds (LinkStep p limit) start first w' (Idle fun core => J core ∧ Good block core))
      fun _ _ => True := by
  induction left generalizing w with
  | zero => exact ⟨rfl, nofun⟩
  | succ left ih =>
    refine (Program.after_bind _).2
      ((exchangeBlock_idle hexchanges hJ hlimit hwtx hdeadline hspeaks hw).mono
      (fun block w₁ ⟨hsession, hanswer⟩ => ?_) fun _ _ _ => trivial)
    split
    · next hr =>
      refine (Program.after_bind _).2 (after_fields.2 ?_)
      split
      · rw [← hsession] at hspeaks ⊢
        exact ih hspeaks (hanswer.mono fun _ hl => ⟨hl.1, hl.2.1⟩)
      · next hne =>
        refine ⟨hsession, fun block' hblock => ?_⟩
        cases hblock
        refine ⟨.inl ⟨hr, ?_⟩, hanswer⟩
        rw [← hsession]
        exact Bool.eq_not.2 hne
    · split
      · next hi =>
        refine ⟨hsession, fun block' hblock => ?_⟩
        cases hblock
        exact ⟨.inr hi, hanswer⟩
      · trivial

/-- **The response to a command that has been acknowledged.** -/
theorem requestResponse_spec {executed : List (List UInt8 × List UInt8)}
    {apdu : List UInt8} {expected : Bool} (hlimit : limit ≤ kCardUartFrameMaxLength)
    (hdeadline : deadline ≤ timeMax) {left : Nat} (hspeaks : Speaks p w.session)
    (hw : Holds (LinkStep p limit) start first w (Idle fun core => ∃ parts,
      Responding executed apdu expected w.session.receiveSequence parts 0 core)) :
    After (requestResponse fuel deadline left) w
      (fun answer w' => w'.session = w.session ∧ ∀ block, answer = some block →
        Holds (LinkStep p limit) start first w'
          (Idle (Arrived executed apdu expected w.session.receiveSequence 0 [] block)))
      fun _ _ => True := by
  induction left generalizing w with
  | zero => exact ⟨rfl, nofun⟩
  | succ left ih =>
    refine (Program.after_bind _).2 (after_fields.2 ?_)
    have hexchanges := @exchanges_request executed expected w.session.receiveSequence apdu 0 []
    refine (Program.after_bind _).2 ((exchangeBlock_idle hexchanges ?_ hlimit ?_ hdeadline hspeaks
      (hw.mono fun l hl => ⟨hl.1, ?_⟩)).mono (fun block w₁ ⟨hsession, hanswer⟩ => ?_)
      fun _ _ _ => trivial)
    · rintro core ⟨parts, position, -, -, hresponding⟩
      exact hresponding.kept
    · cases w.session.receiveSequence <;> decide
    · obtain ⟨parts, hresponding⟩ := hl.2
      exact ⟨parts, 0, rfl, .inr rfl, hresponding⟩
    split
    · next hi =>
      refine ⟨hsession, fun block' hblock => hanswer.mono fun l hl => ⟨hl.1, ?_⟩⟩
      cases hblock
      refine hl.2.2.resolve_left fun hrequest => ?_
      rw [isI_of_isR hrequest.1] at hi
      cases hi
    · split
      · trivial
      · rw [← hsession] at hspeaks hanswer ⊢
        refine ih hspeaks (hanswer.mono fun l hl => ⟨hl.1, ?_⟩)
        obtain ⟨parts, position, -, hposition, hresponding⟩ := hl.2.1
        obtain rfl : position = 0 := by omega
        exact ⟨parts, hresponding⟩

/-- **The response to the last part of a command**, which may have to be asked for. -/
theorem answerOf_spec {executed : List (List UInt8 × List UInt8)}
    {apdu : List UInt8} {block : Block} (hlimit : limit ≤ kCardUartFrameMaxLength)
    (hdeadline : deadline ≤ timeMax) (hspeaks : Speaks p w.session)
    (hw : Holds (LinkStep p limit) start first w (Idle fun core =>
      isR block.pcb = true ∧
        (∃ parts, Responding executed apdu
          (!w.session.sendSequence) w.session.receiveSequence parts 0 core) ∨
      isI block.pcb = true ∧
        Arrived executed apdu (!w.session.sendSequence) w.session.receiveSequence 0
          [] block core)) :
    After (answerOf fuel deadline false block) w
      (fun answer w' => w'.session = w.session ∧ Holds (LinkStep p limit) start first w'
        (Idle (Arrived executed apdu
          (!w.session.sendSequence) w.session.receiveSequence 0 [] answer)))
      fun _ _ => True := by
  unfold answerOf
  split
  · next hr =>
    have hresponding : Holds (LinkStep p limit) start first w (Idle fun core => ∃ parts,
        Responding executed apdu
          (!w.session.sendSequence) w.session.receiveSequence parts 0 core) := by
      refine hw.mono fun l hl => ⟨hl.1, ?_⟩
      rcases hl.2 with ⟨-, hresponding⟩ | ⟨hi, -⟩
      · exact hresponding
      · rw [isI_of_isR hr.2] at hi
        cases hi
    refine (Program.after_bind _).2
      ((requestResponse_spec hlimit hdeadline hspeaks hresponding).mono
      (fun answer w' ⟨hsession, hanswer⟩ => ?_) fun _ _ _ => trivial)
    · cases answer with
      | none => trivial
      | some b => exact ⟨hsession, hanswer b rfl⟩
  · next hr =>
    refine ⟨rfl, hw.mono fun l hl => ⟨hl.1, ?_⟩⟩
    rcases hl.2 with ⟨hr', -⟩ | ⟨-, harrived⟩
    · exact absurd ⟨rfl, hr'⟩ hr
    · exact harrived

/-- A part of a command that is not its last one, when it has been accepted. -/
theorem sendPart_spec {executed : List (List UInt8 × List UInt8)} {command part : List UInt8}
    (hlimit : limit ≤ kCardUartFrameMaxLength) (hdeadline : deadline ≤ timeMax) {left : Nat}
    (hspeaks : Speaks p w.session)
    (hw : Holds (LinkStep p limit) start first w
      (Idle (Taking executed w.session.sendSequence w.session.receiveSequence command))) :
    After (sendChunk fuel (iBlock w.session.sendSequence true)
      (ByteView.of part) true deadline left) w
      (fun accepted w' => w'.session = w.session ∧ ∀ block, accepted = some block →
        Holds (LinkStep p limit) start first w' (Idle
          (Taking executed (!w.session.sendSequence) w.session.receiveSequence (command ++ part))))
      fun _ _ => True := by
  refine (sendChunk_spec (J := fun core =>
      Taking executed w.session.sendSequence w.session.receiveSequence command core ∨
        Taking executed (!w.session.sendSequence) w.session.receiveSequence (command ++ part) core)
    exchanges_part ?_ hlimit ?_ hdeadline hspeaks (hw.mono fun _ hl => ⟨hl.1, .inl hl.2⟩)).mono
    (fun accepted w' ⟨hsession, haccepted⟩ => ⟨hsession, fun block hblock => ?_⟩)
    fun _ _ _ => trivial
  · rintro core (h | h)
    · exact h.kept
    · exact h.kept
  · cases w.session.sendSequence <;> decide
  · obtain ⟨hasked | ⟨-, hmore⟩, hanswer⟩ := haccepted block hblock
    · refine hanswer.mono fun l hl => ⟨hl.1, ?_⟩
      rcases hl.2.1 with htaking | htaking
      · -- the card would have asked for this part again
        have hsame := hasked.2.symm.trans hl.2.2.2
        rw [htaking.expected] at hsame
        exact absurd hsame (by simp)
      · exact htaking
    · cases hmore

/-- The last part of a command, when it has been accepted. -/
theorem sendLast_spec {executed : List (List UInt8 × List UInt8)} {command part : List UInt8}
    (hlimit : limit ≤ kCardUartFrameMaxLength) (hdeadline : deadline ≤ timeMax) {left : Nat}
    (hspeaks : Speaks p w.session)
    (hw : Holds (LinkStep p limit) start first w
      (Idle (Taking executed w.session.sendSequence w.session.receiveSequence command))) :
    After (sendChunk fuel (iBlock w.session.sendSequence false)
      (ByteView.of part) false deadline left) w
      (fun accepted w' => w'.session = w.session ∧ ∀ block, accepted = some block →
        Holds (LinkStep p limit) start first w' (Idle fun core =>
          isR block.pcb = true ∧
          (∃ parts, Responding executed (command ++ part) (!w.session.sendSequence)
            w.session.receiveSequence parts 0 core) ∨
          isI block.pcb = true ∧ Arrived executed (command ++ part) (!w.session.sendSequence)
            w.session.receiveSequence 0 [] block core))
      fun _ _ => True := by
  refine (sendChunk_spec (J := fun core =>
      Taking executed w.session.sendSequence w.session.receiveSequence command core ∨
        ∃ parts, Responding executed (command ++ part)
          (!w.session.sendSequence) w.session.receiveSequence parts 0 core)
    exchanges_last ?_ hlimit ?_ hdeadline hspeaks (hw.mono fun _ hl => ⟨hl.1, .inl hl.2⟩)).mono
    (fun accepted w' ⟨hsession, haccepted⟩ => ⟨hsession, fun block hblock => ?_⟩)
    fun _ _ _ => trivial
  · rintro core (h | ⟨_, h⟩)
    · exact h.kept
    · exact h.kept
  · cases w.session.sendSequence <;> decide
  · obtain ⟨haccepted, hanswer⟩ := haccepted block hblock
    refine hanswer.mono fun l hl => ⟨hl.1, ?_⟩
    rcases hl.2.2 with hrequest | harrived
    · rcases haccepted with hasked | ⟨hi, -⟩
      · refine .inl ⟨hasked.1, hl.2.1.resolve_left fun htaking => ?_⟩
        -- the card would have asked for this part again
        have hsame := hasked.2.symm.trans hrequest.2
        rw [htaking.expected] at hsame
        exact absurd hsame (by simp)
      · rw [isI_of_isR hrequest.1] at hi
        cases hi
    · refine .inr ⟨?_, harrived⟩
      obtain ⟨parts, -, -, hfirst⟩ := harrived
      exact isI_of_mem_numbered (List.mem_of_getElem? hfirst)

/-- What holds before the part of a command at an offset, and after the last one. -/
structure Offset (executed : List (List UInt8 × List UInt8)) (apdu : ByteView)
    (session : CardSession) (offset : Nat) (lastBlock : Block) (core : Core) : Prop where
  taking : offset < apdu.bytes.length →
    Taking executed session.sendSequence session.receiveSequence (apdu.bytes.take offset) core
  arrived : apdu.bytes.length ≤ offset →
    Arrived executed apdu.bytes session.sendSequence session.receiveSequence 0 [] lastBlock core

theorem after_received {block : Option Block} {Q : Block → World CardSession → Prop}
    {R : Stop → World CardSession → Prop} (hsome : ∀ b, block = some b → Q b w)
    (hnone : R (.failure .protocolError) w) : After (received block) w Q R := by
  cases block with
  | none => exact hnone
  | some b => exact hsome b rfl

/-- **A command is executed once.** -/
theorem sendFrom_spec {executed : List (List UInt8 × List UInt8)} {apdu : ByteView}
    (hlimit : limit ≤ kCardUartFrameMaxLength) (hdeadline : deadline ≤ timeMax)
    (hsize : apdu.bytes.length = apdu.size) {rounds offset : Nat} {lastBlock : Block}
    (hspeaks : Speaks p w.session)
    (hw : Holds (LinkStep p limit) start first w
      (Idle (Offset executed apdu w.session offset lastBlock))) :
    After (sendFrom fuel apdu deadline rounds offset lastBlock) w
      (fun block w' => w'.session = { w.session with sendSequence := w'.session.sendSequence } ∧
        Holds (LinkStep p limit) start first w'
          (Idle (Arrived executed apdu.bytes w'.session.sendSequence
            w.session.receiveSequence 0 [] block)))
      fun _ _ => True := by
  induction rounds generalizing w offset lastBlock with
  | zero => trivial
  | succ rounds ih =>
    unfold sendFrom
    split
    · next hoffset =>
      refine (Program.after_bind _).2 (after_fields.2 ?_)
      dsimp only
      generalize min (min w.session.cardIfsc.toNat
        (kCardUartFrameMaxLength - 3 - edcLength w.session.useCrc))
        (apdu.size - offset) = length
      have htaking : Holds (LinkStep p limit) start first w
          (Idle (Taking executed w.session.sendSequence
          w.session.receiveSequence (apdu.bytes.take offset))) :=
        hw.mono fun l hl => ⟨hl.1, hl.2.taking (by omega)⟩
      have hparts : apdu.bytes.take offset ++ (apdu.bytes.drop offset).take length =
          apdu.bytes.take (offset + length) :=
        (List.take_add ..).symm
      -- the rest of the command, from the card that has taken this part
      have hrest {w' : World CardSession} {block : Block} (hsession : w'.session = w.session)
          (hw' : Holds (LinkStep p limit) start first w' (Idle (Offset executed apdu
            { w.session with sendSequence := !w.session.sendSequence } (offset + length) block))) :
          After (update (fun session =>
            { session with sendSequence := !session.sendSequence }) >>= fun _ =>
            sendFrom fuel apdu deadline rounds (offset + length) block) w'
            (fun block w'' => w''.session = { w.session with sendSequence :=
              w''.session.sendSequence } ∧
              Holds (LinkStep p limit) start first w''
                (Idle (Arrived executed apdu.bytes w''.session.sendSequence
                  w.session.receiveSequence 0 [] block)))
            fun _ _ => True := by
        refine (Program.after_bind _).2 (after_update.2 ?_)
        rw [hsession]
        exact ih ⟨hspeaks.useCrc, hspeaks.cardIfsc, hspeaks.blockTimeoutMs⟩ hw'
      by_cases hmore : offset + length < apdu.size
      · rw [decide_eq_true hmore]
        refine (Program.after_bind _).2 ((sendPart_spec hlimit hdeadline hspeaks htaking).mono
          (fun accepted w₁ ⟨hsession, haccepted⟩ => ?_) fun _ _ _ => trivial)
        refine (Program.after_bind _).2 (after_received (fun block hblock => ?_) trivial)
        refine (Program.after_bind _).2
          (hrest hsession ((haccepted block hblock).mono fun l hl => ⟨hl.1, ?_, ?_⟩))
        · intro _
          rw [← hparts]
          exact hl.2
        · intro _
          omega
      · rw [decide_eq_false hmore]
        refine (Program.after_bind _).2 ((sendLast_spec hlimit hdeadline hspeaks htaking).mono
          (fun accepted w₁ ⟨hsession, haccepted⟩ => ?_) fun _ _ _ => trivial)
        refine (Program.after_bind _).2 (after_received (fun block hblock => ?_) trivial)
        have hanswer := haccepted block hblock
        rw [hparts, List.take_of_length_le (by omega), ← hsession] at hanswer
        refine (Program.after_bind _).2
          ((answerOf_spec hlimit hdeadline (hsession ▸ hspeaks) hanswer).mono
          (fun answer w₂ ⟨hsession₂, harrived⟩ => ?_) fun _ _ _ => trivial)
        rw [hsession] at hsession₂ harrived
        refine hrest hsession₂ (harrived.mono fun l hl => ⟨hl.1, ?_, ?_⟩)
        · intro _
          omega
        · exact fun _ => hl.2
    · next hoffset =>
      exact ⟨rfl, hw.mono fun l hl => ⟨hl.1, hl.2.arrived (by omega)⟩⟩

/-- The next block of the response. -/
theorem nextBlock_spec {executed : List (List UInt8 × List UInt8)} {apdu : List UInt8}
    {expected next : Bool} (hlimit : limit ≤ kCardUartFrameMaxLength)
    (hdeadline : deadline ≤ timeMax) {maxRetries position : Nat} {response : List UInt8}
    (hspeaks : Speaks p w.session)
    (hw : Holds (LinkStep p limit) start first w (Idle fun core => ∃ parts,
      (parts.take (position + 1)).flatten = response ∧
      Responding executed apdu expected next parts position core)) :
    After (exchangeBlock fuel (rBlock (turned next (position + 1))) noData deadline maxRetries) w
      (fun answer w' => w'.session = w.session ∧ (isI answer.pcb = true →
        Holds (LinkStep p limit) start first w'
          (Idle (Arrived executed apdu expected next (position + 1) response answer))))
      fun _ _ => True := by
  refine (exchangeBlock_idle (J := fun core => ∃ parts position',
    (parts.take (position + 1)).flatten = response ∧
      (position' = position + 1 - 1 ∨ position' = position + 1) ∧
        Responding executed apdu expected next parts position' core)
    exchanges_request ?_ hlimit ?_ hdeadline hspeaks (hw.mono fun l hl => ⟨hl.1, ?_⟩)).mono
    (fun answer w₁ ⟨hsession, hanswer⟩ => ⟨hsession, fun hi => hanswer.mono fun l hl => ⟨hl.1, ?_⟩⟩)
    fun _ _ _ => trivial
  · rintro core ⟨parts, position, -, -, hresponding⟩
    exact hresponding.kept
  · cases turned next (position + 1) <;> decide
  · obtain ⟨parts, hwhole, hresponding⟩ := hl.2
    exact ⟨parts, position, hwhole, .inl rfl, hresponding⟩
  · refine hl.2.2.resolve_left fun hrequest => ?_
    rw [isI_of_isR hrequest.1] at hi
    cases hi

/-- **The response is received.** -/
theorem receiveResponse_spec {executed : List (List UInt8 × List UInt8)}
    {apdu : List UInt8} {next : Bool} (hlimit : limit ≤ kCardUartFrameMaxLength)
    (hdeadline : deadline ≤ timeMax) {capacity rounds position : Nat} {response : List UInt8}
    {block : Block} (hspeaks : Speaks p w.session)
    (hnext : w.session.receiveSequence = turned next position)
    (hw : Holds (LinkStep p limit) start first w
      (Idle (Arrived executed apdu w.session.sendSequence next position response block))) :
    After (receiveResponse fuel capacity deadline rounds response block) w
      (fun whole w' => w'.session = { w.session with receiveSequence :=
        w'.session.receiveSequence } ∧
        Holds (LinkStep p limit) start first w'
          (Idle (Taking (executed ++ [(apdu, whole)]) w'.session.sendSequence
            w'.session.receiveSequence [])))
      fun _ _ => True := by
  induction rounds generalizing w position response block with
  | zero => trivial
  | succ rounds ih =>
    unfold receiveResponse
    refine (Program.after_bind _).2 (after_fields.2 ?_)
    split
    · trivial
    split
    · trivial
    refine (Program.after_bind _).2 (after_update.2 ?_)
    have htaken : Holds (LinkStep p limit) start first w (Idle fun core => ∃ parts,
        (parts.take (position + 1)).flatten = response ++ block.data ∧
          Responding executed apdu w.session.sendSequence next parts position core ∧
            (block.pcb &&& kT1IChain = 0 → parts.length = position + 1)) := by
      refine hw.mono fun l hl => ⟨hl.1, ?_⟩
      obtain ⟨parts, hbefore, hresponding, hblock⟩ := hl.2
      obtain ⟨part, hpart, rfl⟩ := numbered_getElem? hblock
      refine ⟨parts, ?_, hresponding, fun hlast => ?_⟩
      · rw [List.take_add_one, hpart, List.flatten_append, hbefore]
        simp
      · have hlength := (List.getElem?_eq_some_iff.1 hpart).1
        have hchain := chained_iBlock (turned next position)
          (decide (position + 1 < parts.length)) part
        unfold chained at hchain
        rw [hlast] at hchain
        have hnone := of_decide_eq_false hchain.symm
        omega
    have hmoved : (!w.session.receiveSequence) = turned next (position + 1) := by
      rw [hnext, turned_succ]
    dsimp only
    rw [hmoved]
    have hspeaks₀ : Speaks p { w.session with receiveSequence := turned next (position + 1) } :=
      ⟨hspeaks.useCrc, hspeaks.cardIfsc, hspeaks.blockTimeoutMs⟩
    split
    · next hlast =>
      refine ⟨rfl, htaken.mono fun l hl => ⟨hl.1, ?_⟩⟩
      obtain ⟨parts, hwhole, hresponding, hall⟩ := hl.2
      rw [← hall hlast, List.take_length] at hwhole
      refine ⟨hresponding.kept, ?_, hresponding.expected, ?_, hresponding.command⟩
      · rw [hresponding.executed, hwhole]
      · rw [hresponding.next, hall hlast]
        rfl
    · refine (Program.after_bind _).2 (after_fields.2 ?_)
      have hasked : Holds (LinkStep p limit) start first
          (w.withSession { w.session with receiveSequence := turned next (position + 1) })
          (Idle fun core => ∃ parts,
            (parts.take (position + 1)).flatten = response ++ block.data ∧
              Responding executed apdu w.session.sendSequence next parts position core) := by
        refine htaken.mono fun l hl => ⟨hl.1, ?_⟩
        obtain ⟨parts, hwhole, hresponding, -⟩ := hl.2
        exact ⟨parts, hwhole, hresponding⟩
      refine (Program.after_bind _).2 ((nextBlock_spec hlimit hdeadline hspeaks₀ hasked).mono
        (fun answer w₁ h => ?_) fun _ _ _ => trivial)
      obtain ⟨hsession, hanswer⟩ := h
      split
      · trivial
      · next hi =>
        have harrived := hanswer (Bool.of_not_eq_false hi)
        have hsend : w.session.sendSequence = w₁.session.sendSequence := by
          rw [hsession]
          rfl
        rw [hsend] at harrived
        refine (ih (hsession ▸ hspeaks₀) (by rw [hsession]; rfl) harrived).mono
          (fun whole w₂ ⟨hsession₂, htaking⟩ => ⟨?_, htaking⟩) fun _ _ _ => trivial
        rw [hsession₂, hsession]
        rfl

/-- **A command is executed once, and its response is received.** -/
theorem transmitInitialized_spec {executed : List (List UInt8 × List UInt8)} {apdu : ByteView}
    {capacity : Option Nat} (hlimit : limit ≤ kCardUartFrameMaxLength)
    (hdeadline : deadline ≤ timeMax) (hspeaks : Speaks p w.session)
    (hw : Holds (LinkStep p limit) start first w
      (Idle (Taking executed w.session.sendSequence w.session.receiveSequence []))) :
    After (transmitInitialized fuel apdu capacity deadline) w
      (fun response w' => Speaks p w'.session ∧ w'.session.initialized = w.session.initialized ∧
        Holds (LinkStep p limit) start first w' (Idle (Taking (executed ++ [(apdu.bytes, response)])
          w'.session.sendSequence w'.session.receiveSequence [])))
      fun _ _ => True := by
  unfold transmitInitialized
  cases capacity with
  | none => trivial
  | some capacity =>
    dsimp only
    split
    · trivial
    · next hgiven =>
      have hsize : apdu.bytes.length = apdu.size := by
        unfold ByteView.bytes
        cases hdata : apdu.data with
        | none => exact absurd (.inl hdata) hgiven
        | some bytes => exact apdu.size_eq bytes hdata
      have hbegin : Holds (LinkStep p limit) start first w
          (Idle (Offset executed apdu w.session 0 {})) := by
        refine hw.mono fun l hl => ⟨hl.1, fun _ => hl.2, fun hempty => ?_⟩
        exact absurd (.inr (by omega)) hgiven
      refine (Program.after_bind _).2 ((sendFrom_spec hlimit hdeadline hsize hspeaks hbegin).mono
        (fun block w₁ ⟨hsession, harrived⟩ => ?_) fun _ _ _ => trivial)
      have hspeaks₁ : Speaks p w₁.session := by
        rw [hsession]
        exact ⟨hspeaks.useCrc, hspeaks.cardIfsc, hspeaks.blockTimeoutMs⟩
      have hnext : w₁.session.receiveSequence = turned w.session.receiveSequence 0 := by
        rw [hsession]
        rfl
      have hinitialized : w₁.session.initialized = w.session.initialized := by rw [hsession]
      refine (receiveResponse_spec hlimit hdeadline hspeaks₁ hnext harrived).mono
        (fun response w₂ ⟨hsession₂, hresponse⟩ => ⟨?_, ?_, hresponse⟩) fun _ _ _ => trivial
      · rw [hsession₂]
        exact ⟨hspeaks₁.useCrc, hspeaks₁.cardIfsc, hspeaks₁.blockTimeoutMs⟩
      · rw [hsession₂]
        exact hinitialized

end

end Px4.Card
