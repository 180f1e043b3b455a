import Px4.Card.Atr

/-!
# The T=1 session (`card.cpp`)

`CardSession` over the hardware of the card and the clock. What is copied into a response buffer is
given by its bytes, and of a block's data those that are in use. The sequence numbers are bits.
Loops count rounds; without any left they end in `Stop.undefined`.
-/

namespace Px4.Card

open Lib (Program)

/-! ## Constants -/

/-- `kT1Nad`. -/
def kT1Nad : UInt8 := 0x00

/-- `kT1IBlock`. -/
def kT1IBlock : UInt8 := 0x00

/-- `kT1ISequence`. -/
def kT1ISequence : UInt8 := 0x40

/-- `kT1IChain`. -/
def kT1IChain : UInt8 := 0x20

/-- `kT1RBlock`. -/
def kT1RBlock : UInt8 := 0x80

/-- `kT1RSequence`. -/
def kT1RSequence : UInt8 := 0x10

/-- `kT1SBlock`. -/
def kT1SBlock : UInt8 := 0xc0

/-- `kT1SResponse`. -/
def kT1SResponse : UInt8 := 0x20

/-- `kT1SResynchronize`. -/
def kT1SResynchronize : UInt8 := 0x00

/-- `kT1SIfs`. -/
def kT1SIfs : UInt8 := 0x01

/-- `kT1SWtx`. -/
def kT1SWtx : UInt8 := 0x03

/-- `kCardUartFrameMaxLength`. -/
def kCardUartFrameMaxLength : Nat := 255

/-- `kMaxRetries`. -/
def kMaxRetries : Nat := 3

/-- `kMaxDiscardChunks`. -/
def kMaxDiscardChunks : Nat := 4

/-! ## State -/

/-- `CardSession`, without its hardware and clock. -/
structure CardSession where
  atr : CardAtr := {}
  initialized : Bool := false
  useCrc : Bool := false
  cardIfsc : UInt8 := 32
  blockTimeoutMs : Nat := kDefaultBlockTimeoutMs
  sendSequence : Bool := false
  receiveSequence : Bool := false
  deriving DecidableEq, Repr

/-- `CardSession::Block`, with the data that are in use. -/
structure Block where
  pcb : UInt8 := 0
  data : List UInt8 := []
  deriving DecidableEq, Repr

/-- A function of a session. -/
abbrev Session (α : Type) := Driver CardSession α

/-- A change of the session's fields. -/
def update (f : CardSession → CardSession) : Session PUnit :=
  modify fun w => { w with session := f w.session }

/-- The session's fields. -/
def fields : Session CardSession := return (← get).session

/-- `CardSession::invalidate`. -/
def invalidate : Session PUnit := update fun _ => {}

/-! ## Checksums -/

/-- A bit of `calculate_crc`. -/
def crcBit (state : UInt16 × UInt16) : UInt16 × UInt16 :=
  let (crc, value) := state
  (if (crc ^^^ value) &&& 0x8000 ≠ 0 then (crc <<< 1) ^^^ 0x1021 else crc <<< 1, value <<< 1)

/-- A byte of `calculate_crc`. -/
def crcByte (crc : UInt16) (byte : UInt8) : UInt16 :=
  (Nat.repeat crcBit 8 (crc, byte.toUInt16 <<< 8)).1

/-- `CardSession::calculate_crc`. -/
def calculateCrc (bytes : List UInt8) : UInt16 := bytes.foldl crcByte 0xffff

/-- The number of bytes of the checksum. -/
def edcLength (useCrc : Bool) : Nat := if useCrc = true then 2 else 1

/-- The checksum of a block. -/
def edcOf (useCrc : Bool) (bytes : List UInt8) : List UInt8 :=
  if useCrc = true then [(calculateCrc bytes >>> 8).toUInt8, (calculateCrc bytes).toUInt8]
    else [xorOf bytes]

/-- The check of the checksum at the end of a frame. -/
def edcMatches (useCrc : Bool) (frame : List UInt8) : Bool :=
  if useCrc = true then
    match frame.drop (frame.length - 2) with
    | [high, low] => calculateCrc (frame.take (frame.length - 2)) ==
      (high.toUInt16 <<< 8 ||| low.toUInt16)
    -- a frame has five bytes at least
    | _ => false
  else xorOf frame == 0

/-! ## Blocks -/

/-- `CardSession::send_block`. -/
def sendBlock (pcb : UInt8) (data : ByteView) : Session Unit := do
  if 254 < data.size ∨ data.size ≠ 0 ∧ data.data = none then fail .invalidArgument
  else
    let useCrc := (← fields).useCrc
    if kCardUartFrameMaxLength < 3 + data.size + edcLength useCrc then fail .invalidArgument
    else
      let header := kT1Nad :: pcb :: UInt8.ofNat data.size :: data.bytes
      checked (call (.writeData (header ++ edcOf useCrc header)))

/-- The loop of `discard_pending_data`, with `left` more rounds. -/
def discardFrom : Nat → Session Unit
  | 0 => fail .protocolError
  | left + 1 => do
    if (← checked (call .dataReady)) = false then return ()
    else
      let read ← checked (call (.readData kCardUartFrameMaxLength))
      if kCardUartFrameMaxLength < read.length then fail .protocolError
      else if read.length = 0 then return ()
      else discardFrom left

/-- `CardSession::discard_pending_data`. -/
def discardPendingData : Session Unit := discardFrom kMaxDiscardChunks

/-- The variables of the loop of `receive_block`. -/
structure Receiving where
  frame : List UInt8 := []
  expectedLength : Nat := 0
  readFilledChunk : Bool := false
  deriving DecidableEq, Repr

/-- `expected_length`, which is kept while there are less than three bytes. -/
def expectedLengthOf (useCrc : Bool) (frame : List UInt8) (before : Nat) : Nat :=
  match frame with
  | _ :: _ :: length :: _ => 3 + length.toNat + edcLength useCrc
  | _ => before

/-- The loop of `receive_block`. -/
def receiveFrom (fuel deadline : Nat) : Nat → Receiving → Session Receiving
  | 0, _ => throw .undefined
  | rounds + 1, r => do
    if (← deadlineExpired deadline) = true then return r
    else
      waitDataReady deadline fuel
      let read ← checked (call (.readData kCardUartFrameMaxLength))
      if kCardUartFrameMaxLength < read.length then fail .protocolError
      else if read.length = 0 then
        call (.sleepMs kPollIntervalMs)
        receiveFrom fuel deadline rounds r
      else
        let frame := r.frame ++ read
        let expectedLength := expectedLengthOf (← fields).useCrc frame r.expectedLength
        let r : Receiving := { frame, expectedLength, readFilledChunk :=
          read.length == kCardUartFrameMaxLength }
        if kCardUartFrameMaxLength < expectedLength then fail .protocolError
        else if expectedLength ≠ 0 ∧ expectedLength ≤ frame.length then return r
        else if expectedLength ≠ 0 ∧ read.length < kCardUartFrameMaxLength then fail .protocolError
        else
          call (.sleepMs kPollIntervalMs)
          receiveFrom fuel deadline rounds r

/-- `CardSession::receive_block`. -/
def receiveBlock (fuel deadline : Nat) : Session Block := do
  let r ← receiveFrom fuel deadline fuel {}
  if r.expectedLength = 0 ∨ r.frame.length < r.expectedLength then fail .timeout
  else
    (if r.expectedLength < r.frame.length ∨ r.readFilledChunk = true then
      discardPendingData else pure ())
    match r.frame.take r.expectedLength with
    | nad :: pcb :: length :: rest =>
      if nad ≠ kT1Nad then fail .protocolError
      else if edcMatches (← fields).useCrc (nad :: pcb :: length :: rest) =
        false then fail .protocolError
      else if 254 < length.toNat then fail .protocolError
      else return { pcb, data := rest.take length.toNat }
    -- at least four bytes are expected
    | _ => throw .undefined

/-! ## Exchanges -/

/-- The answers to requests for more time in `exchange_block`, and what comes after them. -/
def extendWaiting (fuel deadline : Nat) : Nat → Result Block → Session (Result Block)
  | 0, _ => throw .undefined
  | _ + 1, .error e => return .error e
  | rounds + 1, .ok block => do
    if block.pcb = kT1SBlock ||| kT1SWtx then
      match block.data with
      | [multiplier] =>
        if multiplier = 0 then fail .protocolError
        else
          sendBlock (kT1SBlock ||| kT1SResponse ||| kT1SWtx) (ByteView.of [multiplier])
          extendWaiting fuel deadline rounds (← attempt (receiveBlock fuel deadline))
      | _ => fail .protocolError
    else return .ok block

/-- The loop of `exchange_block`, with `left` more rounds. -/
def exchangeFrom (fuel : Nat) (pcb : UInt8) (data : ByteView) (deadline : Nat) : Nat → Session Block
  | 0 => do if (← deadlineExpired deadline) = true then fail .timeout else fail .protocolError
  | left + 1 => do
    if (← deadlineExpired deadline) = true then fail .timeout
    else
      sendBlock pcb data
      let blockDeadline := min deadline (← deadlineAfter (← fields).blockTimeoutMs)
      let response ← attempt (receiveBlock fuel blockDeadline)
      match ← extendWaiting fuel deadline fuel response with
      | .ok block => return block
      | .error e =>
        if e ≠ .timeout ∧ e ≠ .protocolError then fail e
          else exchangeFrom fuel pcb data deadline left

/-- `CardSession::exchange_block`. -/
def exchangeBlock (fuel : Nat) (pcb : UInt8) (data : ByteView) (deadline maxRetries : Nat) :
    Session Block :=
  exchangeFrom fuel pcb data deadline maxRetries

/-- No data: `ByteView{nullptr, 0U}`. -/
def noData : ByteView := ⟨none, 0, nofun⟩

/-! ## Initialization -/

/-- The exchange of S(RESYNCH) in `initialize_t1`. -/
def resynchronizeCard (fuel deadline maxRetries : Nat) : Session Unit := do
  let response ← exchangeBlock fuel (kT1SBlock ||| kT1SResynchronize) noData deadline maxRetries
  if response.pcb ≠ kT1SBlock ||| kT1SResponse ||| kT1SResynchronize ∨ response.data.length ≠ 0 then
    fail .protocolError
  else return ()

/-- The exchange of S(IFS) in `initialize_t1`. -/
def announceIfsd (fuel deadline maxRetries : Nat) (ifsd : UInt8) : Session Block :=
  exchangeBlock fuel (kT1SBlock ||| kT1SIfs) (ByteView.of [ifsd]) deadline maxRetries

/-- The response to the first S(IFS) in `initialize_t1`, or what is tried when a card that has not
been resynchronized does not answer. -/
def announcedOrRetried (fuel deadline : Nat) (resynchronize : Bool) (ifsd : UInt8) :
    Result Block → Session Block
  | .ok block => return block
  | .error e =>
    if resynchronize = false ∧ (e = .timeout ∨ e = .protocolError) then do
      resynchronizeCard fuel deadline 1
      announceIfsd fuel deadline kMaxRetries ifsd
    else fail e

/-- `CardSession::initialize_t1`. -/
def initializeT1 (fuel : Nat) (resynchronize : Bool) (ifsd : UInt8) : Session Unit := do
  update fun session => { session with sendSequence := false, receiveSequence := false }
  let deadline ← deadlineAfter kOperationTimeoutMs
  (if resynchronize = true then resynchronizeCard fuel deadline kMaxRetries else pure ())
  let first ← attempt (announceIfsd fuel deadline
    (if resynchronize = true then kMaxRetries else 1) ifsd)
  let response ← announcedOrRetried fuel deadline resynchronize ifsd first
  if response.pcb ≠ kT1SBlock ||| kT1SResponse ||| kT1SIfs ∨ response.data ≠ [ifsd] then
    fail .protocolError
  else return ()

/-- The IFSD that is announced to a card. -/
def ifsdFor (atr : CardAtr) : UInt8 :=
  if atr.baudRate = .baud38400 then 254 else if atr.edc = .crc then 250 else 251

/-- `CardSession::initialize`. -/
def initializeSession (fuel : Nat) : Session Unit := do
  invalidate
  let atr ← resetAndReadCardAtr fuel
  update fun session => { session with
    atr
    useCrc := atr.edc == .crc
    cardIfsc := atr.ifsc
    blockTimeoutMs := atr.blockTimeoutMs }
  let isAcas := atr.baudRate == .baud38400
  match ← attempt (initializeT1 fuel (!isAcas) (ifsdFor atr)) with
  | .ok () => update fun session => { session with initialized := true }
  | .error e =>
    invalidate
    fail e

/-! ## Transmission -/

/-- An I-block. -/
def iBlock (sequence chain : Bool) : UInt8 :=
  kT1IBlock ||| (if sequence = true then kT1ISequence else 0) |||
    if chain = true then kT1IChain else 0

/-- An R-block. -/
def rBlock (sequence : Bool) : UInt8 := kT1RBlock ||| if sequence = true then kT1RSequence else 0

/-- It is an R-block. -/
def isR (pcb : UInt8) : Bool := pcb &&& 0xc0 == kT1RBlock

/-- It is an I-block. -/
def isI (pcb : UInt8) : Bool := pcb &&& 0x80 == kT1IBlock

/-- The exchanges of an I-block, with `left` more rounds; `none` if it has not been accepted. -/
def sendChunk (fuel : Nat) (pcb : UInt8) (data : ByteView) (hasMore : Bool) (deadline : Nat) :
    Nat → Session (Option Block)
  | 0 => return none
  | left + 1 => do
    let lastBlock ← exchangeBlock fuel pcb data deadline kMaxRetries
    if isR lastBlock.pcb = true then
      if (lastBlock.pcb &&& kT1RSequence != 0) = (← fields).sendSequence then
        sendChunk fuel pcb data hasMore deadline left
      else return some lastBlock
    else if isI lastBlock.pcb = true ∧ hasMore = false then return some lastBlock
    else fail .protocolError

/-- The exchanges for the response to a command that has been acknowledged, with `left` more rounds;
`none` if it has not come. -/
def requestResponse (fuel deadline : Nat) : Nat → Session (Option Block)
  | 0 => return none
  | left + 1 => do
    let lastBlock ← exchangeBlock fuel
      (rBlock (← fields).receiveSequence) noData deadline kMaxRetries
    if isI lastBlock.pcb = true then return some lastBlock
    else if isR lastBlock.pcb = false then fail .protocolError
    else requestResponse fuel deadline left

/-- What must have come. -/
def received : Option Block → Session Block
  | some block => return block
  | none => fail .protocolError

/-- The block that answers a part of the command which has been accepted with `lastBlock`. -/
def answerOf (fuel deadline : Nat) (hasMore : Bool) (lastBlock : Block) : Session Block :=
  if hasMore = false ∧ isR lastBlock.pcb = true then do
    received (← requestResponse fuel deadline kMaxRetries)
  else return lastBlock

/-- The loop that sends the command from `sendOffset` on: the last block that is received. -/
def sendFrom (fuel : Nat) (apdu : ByteView) (deadline : Nat) : Nat → Nat → Block → Session Block
  | 0, _, _ => throw .undefined
  | rounds + 1, sendOffset, lastBlock => do
    if sendOffset < apdu.size then
      let session ← fields
      let maxInfLength := kCardUartFrameMaxLength - 3 - edcLength session.useCrc
      let chunkLength := min (min session.cardIfsc.toNat maxInfLength) (apdu.size - sendOffset)
      let hasMore := decide (sendOffset + chunkLength < apdu.size)
      let pcb := iBlock session.sendSequence hasMore
      let chunk := ByteView.of ((apdu.bytes.drop sendOffset).take chunkLength)
      let accepted ← received (← sendChunk fuel pcb chunk hasMore deadline kMaxRetries)
      let lastBlock ← answerOf fuel deadline hasMore accepted
      update fun session => { session with sendSequence := !session.sendSequence }
      sendFrom fuel apdu deadline rounds (sendOffset + chunkLength) lastBlock
    else return lastBlock

/-- The loop that receives the response, with its bytes so far. -/
def receiveResponse (fuel capacity deadline : Nat) : Nat → List UInt8 → Block → Session (List UInt8)
  | 0, _, _ => throw .undefined
  | rounds + 1, response, lastBlock => do
    if (lastBlock.pcb &&& kT1ISequence != 0) ≠ (← fields).receiveSequence then fail .protocolError
    else if capacity < response.length + lastBlock.data.length then fail .bufferTooSmall
    else
      let response := response ++ lastBlock.data
      update fun session => { session with receiveSequence := !session.receiveSequence }
      if lastBlock.pcb &&& kT1IChain = 0 then return response
      else
        let lastBlock ← exchangeBlock fuel
          (rBlock (← fields).receiveSequence) noData deadline kMaxRetries
        if isI lastBlock.pcb = false then fail .protocolError
        else receiveResponse fuel capacity deadline rounds response lastBlock

/-- `CardSession::transmit_initialized`, into a response buffer of some capacity, or none. -/
def transmitInitialized (fuel : Nat) (apdu : ByteView) (capacity : Option Nat) (deadline : Nat) :
    Session (List UInt8) := do
  match capacity with
  | none => fail .invalidArgument
  | some capacity =>
    if apdu.data = none ∨ apdu.size = 0 then fail .invalidArgument
    else
      let lastBlock ← sendFrom fuel apdu deadline fuel 0 {}
      receiveResponse fuel capacity deadline fuel [] lastBlock

/-- What invalidates the session if it fails. -/
def invalidating {α : Type} (x : Session α) : Session α := do
  match ← attempt x with
  | .ok a => return a
  | .error e =>
    invalidate
    fail e

/-- `CardSession::transmit`. -/
def transmit (fuel : Nat) (apdu : ByteView) (capacity : Option Nat) : Session (List UInt8) := do
  let wasInitialized := (← fields).initialized
  if (← invalidating (checked (call .detectCard))) = false then
    invalidate
    fail (if wasInitialized = true then .cardRemoved else .noCard)
  else
    let session ← fields
    (if session.initialized = false then initializeSession fuel else pure ())
    let deadline ← deadlineAfter kOperationTimeoutMs
    invalidating (transmitInitialized fuel apdu capacity deadline)

end Px4.Card
