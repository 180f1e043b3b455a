import Px4.Card.Session

/-!
# The card at the other end

A card that follows T=1, and the link to it, which may lose a block or garble it. This is what the
session is meant to work with; nothing here is translated from the source.

* `Reacts`: what a card does with a block, and `Answers`: the same with requests for more time.
* `Carries`: a block and its answer on the link.
* `LinkStep`: what the hardware returns that is connected to the card.
-/

namespace Px4.Card

/-! ## Frames -/

/-- The bytes of a block before its checksum. -/
def headerOf (block : Block) : List UInt8 :=
  kT1Nad :: block.pcb :: UInt8.ofNat block.data.length :: block.data

/-- The frame of a block. -/
def frameOf (useCrc : Bool) (block : Block) : List UInt8 :=
  headerOf block ++ edcOf useCrc (headerOf block)

/-- The length of the frame of a block. -/
def frameLength (useCrc : Bool) (block : Block) : Nat := 3 + block.data.length + edcLength useCrc

/-! ## Blocks -/

/-- The sequence number of an I-block. -/
def sequenceOf (block : Block) : Bool := block.pcb &&& kT1ISequence != 0

/-- More is to follow on an I-block. -/
def chained (block : Block) : Bool := block.pcb &&& kT1IChain != 0

/-- The sequence number that an R-block asks for. -/
def requestOf (block : Block) : Bool := block.pcb &&& kT1RSequence != 0

/-- An R-block that asks for a sequence number, whatever error it reports. -/
def IsRequest (block : Block) (number : Bool) : Prop :=
  isR block.pcb = true ∧ requestOf block = number

/-- The I-blocks of a response, from a sequence number on. -/
def numbered : Bool → List (List UInt8) → List Block
  | _, [] => []
  | sequence, [part] => [⟨iBlock sequence false, part⟩]
  | sequence, part :: parts => ⟨iBlock sequence true, part⟩ :: numbered (!sequence) parts

/-- The sequence number after some blocks. -/
def sequenceAfter {α : Type} : Bool → List α → Bool
  | sequence, [] => sequence
  | sequence, _ :: blocks => sequenceAfter (!sequence) blocks

/-- A request for more time. -/
def wtxRequest (multiplier : UInt8) : Block := ⟨kT1SBlock ||| kT1SWtx, [multiplier]⟩

/-- The answer to a request for more time. -/
def wtxBlock (multiplier : UInt8) : Block := ⟨kT1SBlock ||| kT1SResponse ||| kT1SWtx, [multiplier]⟩

/-- S(RESYNCH). -/
def resynchronizeBlock : Block := ⟨kT1SBlock ||| kT1SResynchronize, []⟩

/-- S(IFS). -/
def ifsBlock (ifsd : UInt8) : Block := ⟨kT1SBlock ||| kT1SIfs, [ifsd]⟩

/-! ## The card -/

/-- What a card keeps of the protocol, and the commands that it has executed, with their responses.
-/
structure Core where
  expected : Bool := false
  command : List UInt8 := []
  next : Bool := false
  blocks : List Block := []
  position : Nat := 0
  executed : List (List UInt8 × List UInt8) := []
  deriving DecidableEq, Repr

/-- A card after a reset. -/
def Core.reset (core : Core) : Core := { executed := core.executed }

/-- A card that has taken a part of a command. -/
def Core.extended (core : Core) (part : List UInt8) : Core :=
  { core with expected := !core.expected, command := core.command ++ part }

/-- A card that has executed a command, with the parts of its response. -/
def Core.responding (core : Core) (last : List UInt8) (parts : List (List UInt8)) : Core where
  expected := !core.expected
  command := []
  next := sequenceAfter core.next parts
  blocks := numbered core.next parts
  position := 0
  executed := core.executed ++ [(core.command ++ last, parts.flatten)]

/-- The block of the response that has a sequence number: the last one that was sent, or the next
one. -/
inductive Core.Requested (core : Core) (number : Bool) : Nat → Block → Prop
  | again {block : Block} : core.blocks[core.position]? = some block → sequenceOf block = number →
      Core.Requested core number core.position block
  | next {block : Block} : core.blocks[core.position + 1]? = some block →
      sequenceOf block = number →
      Core.Requested core number (core.position + 1) block

/-- **What a card does with a block.** -/
inductive Reacts : Core → Block → Block → Core → Prop
  | repeated {core : Core} {block answer : Block} : isI block.pcb = true →
      sequenceOf block ≠ core.expected →
      IsRequest answer core.expected → Reacts core block answer core
  | part {core : Core} {block answer : Block} : isI block.pcb = true →
      sequenceOf block = core.expected →
      chained block = true → IsRequest answer (!core.expected) →
      Reacts core block answer (core.extended block.data)
  | execute {core : Core} {block answer : Block} {parts : List (List UInt8)} :
      isI block.pcb = true →
      sequenceOf block = core.expected → chained block = false →
      (∀ part ∈ parts, part.length ≤ 254) →
      (numbered core.next parts)[0]? = some answer →
      Reacts core block answer (core.responding block.data parts)
  | requested {core : Core} {block answer : Block} {position : Nat} : isR block.pcb = true →
      core.Requested (requestOf block) position answer →
      Reacts core block answer { core with position }
  | unrequested {core : Core} {block answer : Block} : isR block.pcb = true →
      (∀ position answer, ¬core.Requested (requestOf block) position answer) →
      IsRequest answer core.expected →
      Reacts core block answer core
  | resynchronize {core : Core} : Reacts core resynchronizeBlock
      ⟨kT1SBlock ||| kT1SResponse ||| kT1SResynchronize, []⟩ core.reset
  | ifs {core : Core} {ifsd : UInt8} : Reacts core (ifsBlock ifsd)
      ⟨kT1SBlock ||| kT1SResponse ||| kT1SIfs, [ifsd]⟩ core

/-- A card, with the answer that it has put off by a request for more time. -/
structure SmartCard where
  core : Core := {}
  deferred : Option Block := none
  deriving DecidableEq, Repr

/-- **The answer of a card**, or its request for more time. -/
inductive Answers : SmartCard → Block → Block → SmartCard → Prop
  | answer {card : SmartCard} {block answer : Block} {core : Core} :
      Reacts card.core block answer core →
      Answers card block answer ⟨core, none⟩
  | defer {card : SmartCard} {block answer : Block} {core : Core} {multiplier : UInt8} :
      Reacts card.core block answer core →
      Answers card block (wtxRequest multiplier) ⟨core, some answer⟩
  | resume {core : Core} {answer : Block} {multiplier : UInt8} :
      Answers ⟨core, some answer⟩ (wtxBlock multiplier) answer ⟨core, none⟩
  | again {core : Core} {answer : Block} {multiplier multiplier' : UInt8} :
      Answers ⟨core, some answer⟩ (wtxBlock multiplier) (wtxRequest multiplier') ⟨core, some answer⟩
  | idle {core : Core} {answer : Block} {multiplier : UInt8} : IsRequest answer core.expected →
      Answers ⟨core, none⟩ (wtxBlock multiplier) answer ⟨core, none⟩

/-! ## The link -/

/-- A card with its ATR, and what the ATR says of it. -/
structure CardParameters where
  atr : List UInt8
  short : atr.length ≤ kPx4CardAtrMaxLength
  useCrc : Bool
  ifsc : UInt8
  blockTimeoutMs : Nat
  announced : ∀ parsed, parseCardAtr (ByteView.of atr) = .ok parsed →
    useCrc = (parsed.edc == .crc) ∧ ifsc = parsed.ifsc ∧ blockTimeoutMs = parsed.blockTimeoutMs

/-- What arrives of the answer of a card: nothing, something that is no frame, or its frame; of at
most `limit` bytes. -/
inductive Arrival (useCrc : Bool) (limit : Nat) (answer : Block) : List UInt8 → Prop
  | lost : Arrival useCrc limit answer []
  | corrupted {bytes : List UInt8} : (∀ block, ¬frameOf useCrc block <+: bytes) →
      bytes.length ≤ limit →
      Arrival useCrc limit answer bytes
  | delivered : frameLength useCrc answer ≤ limit →
      Arrival useCrc limit answer (frameOf useCrc answer)

/-- **A frame and its answer on the link.** -/
inductive Carries (useCrc : Bool) (limit : Nat) : SmartCard → List UInt8 →
    SmartCard → List UInt8 → Prop
  | lost {card : SmartCard} {frame : List UInt8} : Carries useCrc limit card frame card []
  | corrupted {card : SmartCard} {frame bytes : List UInt8} {answer : Block} :
      IsRequest answer card.core.expected →
      Arrival useCrc limit answer bytes → Carries useCrc limit card frame card bytes
  | delivered {card card' : SmartCard} {block answer : Block} {bytes : List UInt8} :
      block.data.length ≤ 254 →
      Answers card block answer card' → Arrival useCrc limit answer bytes →
      Carries useCrc limit card (frameOf useCrc block) card' bytes

/-- What has been sent to the session and is not yet read, and other surroundings. -/
structure Line (K : Type) where
  other : K
  queue : List UInt8

/-- The line when its queue has been read or lost. -/
def Line.drained {K : Type} (l : Line K) : Line K := { l with queue := [] }

/-- A card, and the time before which what it has sent is ready. -/
structure Linked where
  card : SmartCard := {}
  due : Nat := 0
  deriving DecidableEq, Repr

/-- How many block timeouts an answer to a frame may take: S(WTX response) grants what the card has
asked for. -/
def waitingFactor : List UInt8 → Nat
  | _ :: pcb :: _ :: multiplier :: _ =>
    if pcb = kT1SBlock ||| kT1SResponse ||| kT1SWtx then multiplier.toNat else 1
  | _ => 1

/-- **What the hardware returns** at some time, when it is connected to a card. An answer that
arrives at all is there, and is read, before the time is over that the card has for it: its block
timeout, as often as S(WTX response) has granted it, and for an ATR the timeout of the session. A
call that fails loses what has arrived or would arrive. -/
inductive LinkStep (p : CardParameters) (limit time : Nat) :
    Line Linked → Sigma Ask.Answer → Line Linked → Prop
  | detect (l : Line Linked) (answer : Ask.detectCard.Answer) :
      LinkStep p limit time l ⟨.detectCard, answer⟩ l
  | baud (l : Line Linked) (rate : It930xCardBaudRate) (answer : (Ask.setBaudRate rate).Answer) :
      LinkStep p limit time l ⟨.setBaudRate rate, answer⟩ l
  | clock (l : Line Linked) (answer : Ask.monotonicMs.Answer) :
      (l.queue ≠ [] → time < l.other.due) →
      LinkStep p limit time l ⟨.monotonicMs, answer⟩ l
  | sleep (l : Line Linked) (ms : Nat) (answer : (Ask.sleepMs ms).Answer) :
      LinkStep p limit time l ⟨.sleepMs ms, answer⟩ l
  | ready (l : Line Linked) (r : Bool) (later : Nat) : (r = true → l.queue ≠ []) →
      LinkStep p limit time l ⟨.dataReady, (.ok r, later)⟩ l
  | unready (l : Line Linked) (e : Error) (later : Nat) :
      LinkStep p limit time l ⟨.dataReady, (.error e, later)⟩ l.drained
  | read (l : Line Linked) (capacity later : Nat) :
      LinkStep p limit time l ⟨.readData capacity, (.ok (l.queue.take capacity), later)⟩
        { l with queue := l.queue.drop capacity }
  | unread (l : Line Linked) (capacity : Nat) (e : Error) (later : Nat) :
      LinkStep p limit time l ⟨.readData capacity, (.error e, later)⟩ l.drained
  | reset (l : Line Linked) (answer : Ask.resetCard.Answer) (bytes : List UInt8) :
      bytes = p.atr ∨ bytes = [] →
      LinkStep p limit time l ⟨.resetCard, answer⟩
        ⟨⟨⟨l.other.card.core.reset, none⟩, time + kAtrTimeoutMs⟩, bytes⟩
  | unreset (l : Line Linked) (e : Error) (later : Nat) :
      LinkStep p limit time l ⟨.resetCard, (.error e, later)⟩ l
  | write (l : Line Linked) (frame : List UInt8) (later : Nat) (card : SmartCard)
      (bytes : List UInt8) :
      Carries p.useCrc limit l.other.card frame card bytes →
      LinkStep p limit time l ⟨.writeData frame, (.ok (), later)⟩
        ⟨⟨card, time + p.blockTimeoutMs * waitingFactor frame⟩, l.queue ++ bytes⟩
  | unwritten (l : Line Linked) (frame : List UInt8) (e : Error) (later : Nat) (card : SmartCard)
      (bytes : List UInt8) : Carries p.useCrc limit l.other.card frame card bytes →
      LinkStep p limit time l ⟨.writeData frame, (.error e, later)⟩ ⟨⟨card, l.other.due⟩, l.queue⟩

end Px4.Card
