import Mathlib.Algebra.Order.Ring.Nat
import Px4.Lib.Mem
import Px4.Lib.Program

/-!
# Results, byte views and sizes

The vocabulary shared by all components: `Error` (without `OK`; a `Result` is an `Except`),
`ByteView` with its possibly null data pointer, the transfer limit of `transport.h` and the wrapping
subtraction of `std::size_t`.
-/

namespace Px4

/-- `dtv::userland::Error`, without `OK`. -/
inductive Error
  | invalidArgument | internal | disconnected | protocolError | notFound | notReady | timeout
  | busy | unsupported | usbIo | cardRemoved | bufferTooSmall | firmwareRejected | noCard
  | versionMismatch | slowConsumer | resourceLimit
  deriving DecidableEq, Repr

/-- `Result<T>`. -/
abbrev Result (α : Type) := Except Error α

instance [DecidableEq α] : DecidableEq (Result α)
  | .ok a, .ok b => if h : a = b then isTrue (h ▸ rfl) else isFalse fun he => h (by cases he; rfl)
  | .error a, .error b =>
    if h : a = b then isTrue (h ▸ rfl) else isFalse fun he => h (by cases he; rfl)
  | .ok _, .error _ => isFalse nofun
  | .error _, .ok _ => isFalse nofun

/-- What ends a function early: a failure, or what the language leaves undefined. -/
inductive Stop
  | failure (e : Error)
  | undefined
  deriving DecidableEq, Repr

/-- The result of a loop, which may come to nothing. -/
def defined {α : Type} : Option α → Except Stop α
  | some a => .ok a
  | none => .error .undefined

/-- `Result<void>::failure(Error::INVALID_ARGUMENT)` under a condition. -/
def refuse (p : Prop) [Decidable p] : Except Stop Unit :=
  if p then .error (.failure .invalidArgument) else .ok ()

theorem refuse_of_not {p : Prop} [Decidable p] (h : ¬p) : refuse p = .ok () := if_neg h

theorem refuse_ok {p : Prop} [Decidable p] {u : Unit} (h : refuse p = .ok u) : ¬p := by
  intro hp
  simp [refuse, hp] at h

/-- A computation that has given a value. -/
theorem bind_ok {α β : Type} {x : Except Stop α} {f : α → Except Stop β} {b : β}
    (h : (x >>= f) = .ok b) : ∃ a, x = .ok a ∧ f a = .ok b := by
  cases x with
  | ok a => exact ⟨a, rfl, h⟩
  | error stop => cases h

@[simp] theorem ok_bind {α β : Type} (a : α) (f : α → Except Stop β) :
    ((Except.ok a : Except Stop α) >>= f) = f a := rfl

/-- `kMaxStreamTransfer`. -/
def kMaxStreamTransfer : Nat := 1048576

/-- `a - b` on `std::size_t`. -/
def sizeSub (a b : Nat) : Nat := if b ≤ a then a - b else a + 2 ^ 64 - b

/-- `ByteView`: `size` bytes at `data`, which may be null. -/
structure ByteView where
  data : Option (List UInt8)
  size : Nat
  size_eq : ∀ bs, data = some bs → bs.length = size

namespace ByteView

/-- The view of a byte string. -/
def of (bs : List UInt8) : ByteView := ⟨some bs, bs.length, fun _ h => by cases h; rfl⟩

/-- The viewed bytes. -/
def bytes (v : ByteView) : List UInt8 := v.data.getD []

@[simp] theorem of_size (bs : List UInt8) : (of bs).size = bs.length := rfl

@[simp] theorem of_bytes (bs : List UInt8) : (of bs).bytes = bs := rfl

@[simp] theorem of_data (bs : List UInt8) : (of bs).data = some bs := rfl

end ByteView

end Px4
