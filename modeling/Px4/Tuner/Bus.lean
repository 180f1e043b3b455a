import Px4.Core
import Px4.Lib.Oracle
import Mathlib.Logic.Function.Basic

/-!
# The way to a tuner (`bridge_i2c.cpp`, `it930x.cpp`, `tc90522.cpp`)

A tuner stands on an I2C bus of the bridge or behind the repeater of a demodulator. What the bridge
makes of a request that it does not refuse by itself is arbitrary (`Bus`).

A driver is a program in `Drive`: it works on its own fields and on the bus and ends with a value,
with an `Error`, or nowhere (`Stop.undefined`: a division by zero, or a loop that does not end).
-/

namespace Px4.Tuner

/-- `It930xController::i2c_write` and `i2c_read`, on the bus of the tuner. -/
inductive I2c
  | write (address : Nat) (values : List UInt8)
  | read (address length : Nat)
  deriving DecidableEq, Repr

/-- What they return. -/
abbrev I2c.Answer : I2c → Type
  | .write _ _ => Result Unit
  | .read _ _ => Result (List UInt8)

/-- The error of an answer. -/
def I2c.failed : (q : I2c) → q.Answer → Option Error
  | .write _ _, .error e => some e
  | .read _ _, .error e => some e
  | .write _ _, .ok _ => none
  | .read _ _, .ok _ => none

/-- The bus, with what has been asked of the bridge. -/
abbrev Bus := Lib.Oracle I2c I2c.Answer

/-- Between `b` and `b'` the bridge has answered with the error `e`. -/
def Reports (b b' : Bus) (e : Error) : Prop :=
  ∃ new, b'.log = b.log ++ new ∧ ∃ entry ∈ new, I2c.failed entry.1 entry.2 = some e

/-- A function of a driver, on its fields and the bus. -/
abbrev Drive (σ α : Type) := Lib.Program (σ × Bus) Stop α

namespace Drive

variable {σ α β : Type}

/-- `Result<T>::failure`. -/
def fail (e : Error) : Drive σ α := throw (.failure e)

/-- A computation on neither. -/
def lift : Except Stop α → Drive σ α
  | .ok a => pure a
  | .error stop => throw stop

/-- The fields of the driver. -/
def fields : Drive σ σ := do return (← get).1

/-- An assignment to the fields. -/
def assign (f : σ → σ) : Drive σ Unit := modify fun s => (f s.1, s.2)

/-- What a bus operation comes to. -/
def onBus (f : Bus → Bus × Result α) : Drive σ α := do
  let s ← get
  set (s.1, (f s.2).1)
  match (f s.2).2 with
  | .ok a => pure a
  | .error e => fail e

/-- `x`, and `y` after it whatever `x` comes to; a failure of `y` counts if `x` has none. -/
def closing (x y : Drive σ Unit) : Drive σ Unit := ExceptT.mk do
  match ← x.run with
  | .ok () => y.run
  | .error stop =>
    let _ ← y.run
    return .error stop

end Drive

/-! ## Words -/

/-- `std::numeric_limits<std::uint32_t>::max()`. -/
def max32 : Nat := 2 ^ 32 - 1

/-- Truncation to `std::uint32_t`. -/
@[irreducible]
def word (n : Nat) : Nat := n % 2 ^ 32

theorem word_eq {n : Nat} (h : n < 2 ^ 32) : word n = n := by
  unfold word
  exact Nat.mod_eq_of_lt h

/-- `a - b` on `std::uint32_t`. -/
@[irreducible]
def sub32 (a b : Nat) : Nat := (a + 2 ^ 32 - b) % 2 ^ 32

theorem sub32_eq {a b : Nat} (hb : b ≤ a) (ha : a < 2 ^ 32) : sub32 a b = a - b := by
  unfold sub32
  omega

/-! ## Requests -/

/-- `It930xController::i2c_write`; `kMaxCommandPayload - 3` is 247. -/
def i2cWrite (address : Nat) (values : List UInt8) (b : Bus) : Bus × Result Unit :=
  if 0x7f < address ∨ values.length = 0 ∨ 247 < values.length then (b, .error .invalidArgument)
  else b.ask (.write address values)

/-- `It930xController::i2c_read`. -/
def i2cRead (address length : Nat) (b : Bus) : Bus × Result (List UInt8) :=
  if 0x7f < address ∨ length = 0 ∨ 251 < length then (b, .error .invalidArgument)
  else
    match b.ask (.read address length) with
    | (b, .error e) => (b, .error e)
    | (b, .ok values) => if values.length = length then (b, .ok values)
      else (b, .error .protocolError)

/-- `validate_request`. -/
def validRequest : I2c → Bool
  | .write address values => address ≤ 0x7f && values.length != 0
  | .read address length => address ≤ 0x7f && length != 0

/-- The requests one by one, up to the first one that fails; the values of the last one. -/
def performAll : List I2c → List UInt8 → Bus → Bus × Result (List UInt8)
  | [], values, b => (b, .ok values)
  | .write address values :: rest, _, b =>
    match i2cWrite address values b with
    | (b, .error e) => (b, .error e)
    | (b, .ok ()) => performAll rest [] b
  | .read address length :: rest, _, b =>
    match i2cRead address length b with
    | (b, .error e) => (b, .error e)
    | (b, .ok values) => performAll rest values b

/-- `It930xBridgeI2cMaster::request`. -/
def request (requests : List I2c) (b : Bus) : Bus × Result (List UInt8) :=
  if requests.isEmpty then (b, .error .invalidArgument)
  else if !requests.all validRequest then (b, .error .invalidArgument)
  else performAll requests [] b

/-- `Tc90522::downstream_request` of one write, by the demodulator at `demod`; `kDownstreamWriteMax`
is 253 and `kRepeaterRegister` 0xfe. -/
def downstreamWrite (demod address : Nat) (values : List UInt8) (b : Bus) : Bus × Result Unit :=
  if 0x7f < address then (b, .error .invalidArgument)
  else if values.length = 0 ∨ 253 < values.length then (b, .error .invalidArgument)
  else
    match request [.write demod (0xfe :: UInt8.ofNat (address <<< 1) :: values)] b with
    | (b, .error e) => (b, .error e)
    | (b, .ok _) => (b, .ok ())

/-! ## Register images -/

/-- The registers of a chip. -/
abbrev Regs := Nat → UInt8

namespace Regs

/-- `regs[reg] = value`. -/
def put (regs : Regs) (reg : Nat) (value : UInt8) : Regs := Function.update regs reg value

/-- `regs[reg] = (regs[reg] & keep) | value`. -/
def mask (regs : Regs) (reg : Nat) (keep value : UInt8) : Regs :=
  regs.put reg (regs reg &&& keep ||| value)

/-- `regs[reg] |= value`. -/
def set (regs : Regs) (reg : Nat) (value : UInt8) : Regs := regs.put reg (regs reg ||| value)

/-- `regs[reg] &= keep`. -/
def keep (regs : Regs) (reg : Nat) (keep : UInt8) : Regs := regs.put reg (regs reg &&& keep)

/-- `count` registers from `reg` on. -/
def span (regs : Regs) (reg count : Nat) : List UInt8 :=
  (List.range count).map fun i => regs (reg + i)

@[simp] theorem put_self (regs : Regs) (reg : Nat) (value : UInt8) :
    regs.put reg value reg = value :=
  Function.update_self ..

theorem put_of_ne (regs : Regs) {reg other : Nat} (value : UInt8) (h : other ≠ reg) :
    regs.put reg value other = regs other := Function.update_of_ne h ..

@[simp] theorem span_length (regs : Regs) (reg count : Nat) :
    (regs.span reg count).length = count := by
  simp [span]

/-- The registers of a table. -/
def image (values : List UInt8) : Regs := fun reg => values.getD reg 0

end Regs

/-- `write_regs` of registers of the image, for a tuner with `registers` of them at `address` behind
the demodulator at `demod`. -/
def writeSpan {σ : Type} (demod : σ → Fin 128) (address registers : Nat) (regs : Regs)
    (reg count : Nat) : Drive σ Unit := do
  if count = 0 ∨ registers ≤ reg ∨ registers - reg < count then Drive.fail .invalidArgument
  else
    let chip ← Drive.fields
    Drive.onBus (downstreamWrite (demod chip) address (UInt8.ofNat reg :: regs.span reg count))

end Px4.Tuner
