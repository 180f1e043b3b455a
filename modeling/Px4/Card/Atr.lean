import Px4.Core
import Px4.Lib.Oracle

/-!
# Answers to reset (`card.cpp`)

`parse_card_atr` and `reset_and_read_card_atr`, over the hardware of the card and the clock. What
the hardware returns is arbitrary, and each call of it takes some time; a pause takes at least the
time that is asked for. What a read returns is given by its bytes; of more bytes than there was room
for, only the number is used. Loops that wait count rounds; without any left they end in
`Stop.undefined`.
-/

namespace Px4.Card

open Lib (Program)

/-- `kPx4CardAtrMaxLength`. -/
def kPx4CardAtrMaxLength : Nat := 33

/-- `kAtrTimeoutMs`. -/
def kAtrTimeoutMs : Nat := 1000

/-- `kPollIntervalMs`. -/
def kPollIntervalMs : Nat := 5

/-- `kDefaultBlockTimeoutMs`. -/
def kDefaultBlockTimeoutMs : Nat := 500

/-- `kOperationTimeoutMs`. -/
def kOperationTimeoutMs : Nat := 3000

/-- `It930xCardBaudRate`. -/
inductive It930xCardBaudRate
  | baud9600 | baud19200 | baud38400
  deriving DecidableEq, Repr

/-- `CardEdc`. -/
inductive CardEdc
  | lrc | crc
  deriving DecidableEq, Repr

/-- `CardAtr`, with the bytes that are in use. -/
structure CardAtr where
  bytes : List UInt8 := []
  baudRate : It930xCardBaudRate := .baud9600
  ifsc : UInt8 := 32
  edc : CardEdc := .lrc
  blockTimeoutMs : Nat := 500
  deriving DecidableEq, Repr

/-! ## Parsing -/

/-- An interface character, if it is announced, and the bytes after it. -/
def interfaceCharacter (announced : Bool) (rest : List UInt8) :
    Result (Option UInt8 × List UInt8) :=
  if announced = false then .ok (none, rest)
  else
    match rest with
    | [] => .error .notReady
    | value :: rest => .ok (some value, rest)

/-- TA, TB and TC of a group, and the bytes after them. -/
def groupCharacters (interfaces : UInt8) (rest : List UInt8) :
    Result ((Option UInt8 × Option UInt8 × Option UInt8) × List UInt8) := do
  let (ta, rest) ← interfaceCharacter (interfaces &&& 0x01 ≠ 0) rest
  let (tb, rest) ← interfaceCharacter (interfaces &&& 0x02 ≠ 0) rest
  let (tc, rest) ← interfaceCharacter (interfaces &&& 0x04 ≠ 0) rest
  return ((ta, tb, tc), rest)

/-- The baud rate that TA1 selects. -/
def baudRateOf (ta : UInt8) : Option It930xCardBaudRate :=
  if ta = 0x11 then some .baud9600
  else if ta = 0x12 then some .baud19200
  else if ta = 0x13 then some .baud38400
  else none

/-- The block timeout that the first TB for T=1 selects. -/
def blockTimeoutOf (tb : UInt8) : Nat :=
  let bwi := (tb >>> 4).toNat
  let waiting := if bwi < 5 then 100 <<< bwi else kOperationTimeoutMs
  min kOperationTimeoutMs (max kDefaultBlockTimeoutMs waiting)

/-- What the interface characters of a group for T=1 select. -/
def CardAtr.select (atr : CardAtr) (ta tb tc : Option UInt8) : CardAtr :=
  let atr := match ta with
    | some ta => if 1 ≤ ta ∧ ta ≤ 254 then { atr with ifsc := ta } else atr
    | none => atr
  let atr := match tb with
    | some tb => { atr with blockTimeoutMs := blockTimeoutOf tb }
    | none => atr
  match tc with
  | some tc => { atr with edc := if tc &&& 0x01 ≠ 0 then .crc else .lrc }
  | none => atr

/-- The variables of the loop over the groups. -/
structure Groups where
  result : CardAtr := {}
  hasNonT0Protocol : Bool := false
  t1Group : Bool := false
  deriving DecidableEq, Repr

/-- The check of TA1. -/
def checkTa1 (group : Nat) (ta : Option UInt8) (s : Groups) : Result Groups :=
  match ta with
  | none => .ok s
  | some ta =>
    if group = 1 then
      match baudRateOf ta with
      | some baudRate => .ok { s with result := { s.result with baudRate } }
      | none => .error .unsupported
    else .ok s

/-- The loop over the groups of interface characters, with the bytes from `offset` on, which it
takes from the front. There are fewer groups than bytes. -/
def parseGroups : Nat → UInt8 → Nat → Groups → List UInt8 → Result (Groups × List UInt8)
  | 0, _, _, _, _ => .error .internal
  | fuel + 1, interfaces, group, s, rest =>
    if interfaces = 0 then .ok (s, rest)
    else do
      let ((ta, tb, tc), rest) ← groupCharacters interfaces rest
      let s ← checkTa1 group ta s
      let s := if s.t1Group = true ∧ 3 ≤ group then
        { s with result := s.result.select ta tb tc } else s
      match ← interfaceCharacter (interfaces &&& 0x08 ≠ 0) rest with
      | (some td, rest) =>
        let protocol := td &&& 0x0f
        let s := { s with
          hasNonT0Protocol := s.hasNonT0Protocol || protocol != 0
          t1Group := protocol == 1 }
        parseGroups fuel (td >>> 4) (group + 1) s rest
      | (none, rest) => .ok (s, rest)

/-- The exclusive or of some bytes. -/
def xorOf (values : List UInt8) : UInt8 := values.foldl (· ^^^ ·) 0

/-- `parse_card_atr`. -/
def parseCardAtr (bytes : ByteView) : Result CardAtr :=
  if bytes.size ≠ 0 ∧ bytes.data = none then .error .invalidArgument
  else if kPx4CardAtrMaxLength < bytes.size then .error .protocolError
  else if bytes.size < 2 then .error .notReady
  else
    match bytes.bytes with
    | ts :: t0 :: rest =>
      if ts ≠ 0x3b ∧ ts ≠ 0x3f then .error .protocolError
      else
        let historicalLength := (t0 &&& 0x0f).toNat
        match parseGroups bytes.size (t0 >>> 4) 1 {} rest with
        | .error e => .error e
        | .ok (s, after) =>
          let offset := bytes.size - after.length
          let expectedLength := offset + historicalLength +
            if s.hasNonT0Protocol = true then 1 else 0
          if kPx4CardAtrMaxLength < expectedLength then .error .protocolError
          else if bytes.size < expectedLength then .error .notReady
          else if expectedLength < bytes.size then .error .protocolError
          else if s.hasNonT0Protocol = true ∧ xorOf (t0 :: rest) ≠ 0 then .error .protocolError
          else .ok { s.result with bytes := bytes.bytes }
    -- there are at least two bytes
    | _ => .error .notReady

/-! ## The hardware -/

/-- Calls of `CardHardware` and `CardTime`. -/
inductive Ask
  | detectCard
  | resetCard
  | dataReady
  | readData (capacity : Nat)
  | writeData (frame : List UInt8)
  | setBaudRate (baudRate : It930xCardBaudRate)
  | monotonicMs
  | sleepMs (ms : Nat)
  deriving DecidableEq, Repr

/-- What they return. -/
abbrev Ask.Value : Ask → Type
  | .detectCard => Result Bool
  | .resetCard => Result Unit
  | .dataReady => Result Bool
  | .readData _ => Result (List UInt8)
  | .writeData _ => Result Unit
  | .setBaudRate _ => Result Unit
  | .monotonicMs => Unit
  | .sleepMs _ => Unit

/-- What they return, and the time after them, if that is later. -/
abbrev Ask.Answer (q : Ask) : Type := q.Value × Nat

/-- The calls so far, with what they have returned. -/
abbrev Log := List (Sigma Ask.Answer)

/-- The hardware, the time, and what is built on them. -/
structure World (S : Type) where
  session : S
  hardware : Lib.Oracle Ask Ask.Answer
  time : Nat := 0

/-- A function over the hardware. -/
abbrev Driver (S α : Type) := Program (World S) Stop α

variable {S : Type}

/-- `Result<T>::failure`. -/
def fail {α : Type} (e : Error) : Driver S α := throw (.failure e)

/-- The time after a call: the clock does not run backwards, and a pause is long enough. -/
def Ask.until (q : Ask) (time later : Nat) : Nat :=
  match q with
  | .sleepMs ms => max (time + ms) later
  | _ => max time later

/-- A call. -/
def call (q : Ask) : Driver S q.Value := do
  let w ← get
  let answer := (w.hardware.ask q).2
  set { w with hardware := (w.hardware.ask q).1, time := q.until w.time answer.2 }
  return answer.1

/-- A call that may fail. -/
def checked {α : Type} (x : Driver S (Result α)) : Driver S α := do
  match ← x with
  | .ok a => return a
  | .error e => fail e

/-- The result of a function, which may be a failure. -/
def attempt {α : Type} (x : Driver S α) : Driver S (Result α) :=
  Program.of fun w =>
    match x.exec w with
    | (.ok a, w) => (.ok (.ok a), w)
    | (.error (.failure e), w) => (.ok (.error e), w)
    | (.error .undefined, w) => (.error .undefined, w)

/-! ## Waiting -/

/-- `std::numeric_limits<std::uint64_t>::max()`. -/
def timeMax : Nat := 2 ^ 64 - 1

/-- `monotonic_ms`. -/
def monotonicMs : Driver S Nat := do
  call .monotonicMs
  return min (← get).time timeMax

/-- `deadline_after`. -/
def deadlineAfter (milliseconds : Nat) : Driver S Nat := do
  let now ← monotonicMs
  return if timeMax - milliseconds < now then timeMax else now + milliseconds

/-- `deadline_expired`. -/
def deadlineExpired (deadline : Nat) : Driver S Bool := do
  return deadline ≤ (← monotonicMs)

/-- `wait_data_ready`. -/
def waitDataReady (deadline : Nat) : Nat → Driver S Unit
  | 0 => throw .undefined
  | fuel + 1 => do
    if (← deadlineExpired deadline) = true then fail .timeout
    else if (← checked (call .dataReady)) = true then return ()
    else
      call (.sleepMs kPollIntervalMs)
      waitDataReady deadline fuel

/-- The loop of `read_atr_once`, with the bytes so far. -/
def readAtrFrom (fuel deadline : Nat) : Nat → List UInt8 → Driver S CardAtr
  | 0, _ => throw .undefined
  | rounds + 1, atr => do
    if (← deadlineExpired deadline) = true then fail .timeout
    else
      waitDataReady deadline fuel
      if atr.length = kPx4CardAtrMaxLength then fail .protocolError
      else
        let read ← checked (call (.readData (kPx4CardAtrMaxLength - atr.length)))
        if kPx4CardAtrMaxLength - atr.length < read.length then fail .protocolError
        else
          let atr := atr ++ read
          let again := do
            call (.sleepMs kPollIntervalMs)
            readAtrFrom fuel deadline rounds atr
          if read.length ≠ 0 then
            match parseCardAtr (ByteView.of atr) with
            | .ok parsed => return parsed
            | .error e => if e ≠ .notReady then fail e else again
          else again

/-- `read_atr_once`. -/
def readAtrOnce (fuel : Nat) : Driver S CardAtr := do
  let deadline ← deadlineAfter kAtrTimeoutMs
  readAtrFrom fuel deadline fuel []

/-- The loop of `reset_and_read_card_atr`, from `attempts` on. -/
def readAtrAttempts (fuel : Nat) : Nat → Nat → Driver S CardAtr
  | 0, _ => fail .internal
  | left + 1, attempts => do
    checked (call .resetCard)
    match ← attempt (readAtrOnce fuel) with
    | .ok atr =>
      checked (call (.setBaudRate atr.baudRate))
      return atr
    | .error e =>
      if e ≠ .protocolError ∨ attempts ≠ 0 then fail e else readAtrAttempts fuel left (attempts + 1)

/-- `reset_and_read_card_atr`. -/
def resetAndReadCardAtr (fuel : Nat) : Driver S CardAtr := do
  if (← checked (call .detectCard)) = false then fail .noCard
  else readAtrAttempts fuel 2 0

end Px4.Card
