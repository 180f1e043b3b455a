import Px4.Lnb.Supply

/-!
# LNB power of a board

What both LNB coordinators are: a book of requests (a provisional and a committed one for each
receiver, and an independent one), a supply on each bridge, and permission to use 15 V. The request
in effect is the provisional one, else the committed one; a bridge is `Wanted` when one of its
receivers, or the independent request, asks for 15 V. `Step` says all that an operation may do:
refuse, change the book, and attempt to bring supplies to the wanted level; an operation that
switches on and fails takes its change back and attempts once more.

`Tunes` keeps beside a run what was begun and what was committed for each receiver.
-/

namespace Px4.Lnb

/-- The receivers of a board that may ask for power, and the bridge of each. -/
structure Wiring where
  bridges : Nat
  bridgeOf : Nat → Nat
  valid : Nat → Bool

/-- The requests and the supplies of a board. -/
structure Board where
  allow : Bool
  pending : Nat → Option Bool
  committed : Nat → Bool
  independent : Bool
  supply : Nat → Supply

namespace Board

/-- The request in effect. -/
def effective (a : Board) (receiver : Nat) : Bool :=
  (a.pending receiver).getD (a.committed receiver)

/-- Somebody asks for 15 V on a bridge. -/
def Wanted (w : Wiring) (a : Board) (bridge : Nat) : Prop :=
  a.independent = true ∨
    ∃ receiver, w.valid receiver = true ∧ w.bridgeOf receiver = bridge ∧
      a.effective receiver = true

/-- Another provisional request. -/
def setPending (a : Board) (receiver : Nat) (on : Option Bool) : Board :=
  { a with pending := Function.update a.pending receiver on }

/-- Another committed request. -/
def setCommitted (a : Board) (receiver : Nat) (on : Bool) : Board :=
  { a with committed := Function.update a.committed receiver on }

/-- Another independent request. -/
def setIndependent (a : Board) (on : Bool) : Board := { a with independent := on }

/-- No request of a receiver. -/
def released (a : Board) (receiver : Nat) : Board :=
  (a.setPending receiver none).setCommitted receiver false

/-- No request at all. -/
def cleared (a : Board) : Board :=
  { a with pending := fun _ => none, committed := fun _ => false, independent := false }

/-- The board without a bridge: its supply is given up, and no request of its receivers stays. -/
def lose (w : Wiring) (a : Board) (bridge : Nat) : Board :=
  { a with
    pending := fun r => if w.valid r ∧ w.bridgeOf r = bridge then none else a.pending r
    committed := fun r => if w.valid r ∧ w.bridgeOf r = bridge then false else a.committed r
    independent := false
    supply := Function.update a.supply bridge
      { a.supply bridge with state := .disconnected, debt := false } }

/-- Attempts on the bridges `B`, and nothing else. -/
structure Attempt (w : Wiring) (a : Board) (B : Nat → Prop) (a' : Board) : Prop where
  applied : ∀ b, B b → ∃ on r, (on = true ↔ a.Wanted w b) ∧
    Supply.Applied on (a.supply b) (a'.supply b) r
  other : ∀ b, ¬B b → a'.supply b = a.supply b
  allow : a'.allow = a.allow
  pending : a'.pending = a.pending
  committed : a'.committed = a.committed
  independent : a'.independent = a.independent

end Board

/-- The operations of a coordinator. -/
inductive Operation
  | begin (receiver : Nat) (on : Bool)
  | commit (receiver : Nat)
  | rollback (receiver : Nat)
  | release (receiver : Nat)
  | independent (on : Bool)
  | reconcile
  | disconnect (bridge : Nat)
  | shutdown
  deriving DecidableEq, Repr

/-- When an operation may be refused. -/
def Board.Refusable (w : Wiring) (a : Board) : Operation → Prop
  | .begin _ _ | .commit _ => True
  | .rollback receiver => w.valid receiver = false ∨ a.pending receiver = none
  | .release receiver => w.valid receiver = false
  | .independent on => on = true
  | .disconnect bridge => w.bridges ≤ bridge
  | .reconcile | .shutdown => False

/-- **All that an operation can do.** -/
inductive Board.Step (w : Wiring) (a : Board) : Operation → Board → Result Unit → Prop
  | refused {op e} : a.Refusable w op → Step w a op a (.error e)
  | begun {receiver on a'} : w.valid receiver = true → (on = true → a.allow = true) →
      a.pending receiver = none →
      (a.setPending receiver (some on)).Attempt w (· = w.bridgeOf receiver) a' →
      Step w a (.begin receiver on) a' (.ok ())
  | unbegun {receiver on a₁ a' e} : w.valid receiver = true → (on = true → a.allow = true) →
      a.pending receiver = none →
      (a.setPending receiver (some on)).Attempt w (· = w.bridgeOf receiver) a₁ →
      (a₁.setPending receiver none).Attempt w (· = w.bridgeOf receiver) a' →
      Step w a (.begin receiver on) a' (.error e)
  | committed {receiver on} : w.valid receiver = true → a.pending receiver = some on →
      Step w a (.commit receiver) ((a.setPending receiver none).setCommitted receiver on) (.ok ())
  | rolledBack {receiver a' r} : w.valid receiver = true → a.pending receiver ≠ none →
      (a.setPending receiver none).Attempt w (· = w.bridgeOf receiver) a' →
      Step w a (.rollback receiver) a' r
  | released {receiver a' r} : w.valid receiver = true →
      (a.released receiver).Attempt w (· = w.bridgeOf receiver) a' →
      Step w a (.release receiver) a' r
  | switched {on a' r} : (on = true → a.allow = true ∧ r = .ok ()) →
      (a.setIndependent on).Attempt w (· < w.bridges) a' → Step w a (.independent on) a' r
  | unswitched {a₁ a' e} : a.allow = true → (a.setIndependent true).Attempt w (· < w.bridges) a₁ →
      (a₁.setIndependent a.independent).Attempt w (· < w.bridges) a' →
      Step w a (.independent true) a' (.error e)
  | reconciled {a' r} : a.Attempt w (· < w.bridges) a' → Step w a .reconcile a' r
  | disconnected {bridge} : bridge < w.bridges →
      Step w a (.disconnect bridge) (a.lose w bridge) (.ok ())
  | down {a' r} : a.cleared.Attempt w (· < w.bridges) a' → Step w a .shutdown a' r

/-! ## Tunes -/

/-- Beside a run: the tune begun last for a receiver, and the one committed last since the receiver
was released. -/
structure Tunes where
  begun : Nat → Bool := fun _ => false
  committed : Nat → Bool := fun _ => false

namespace Tunes

/-- A tune was begun. -/
def tuneBegun (t : Tunes) (receiver : Nat) (on : Bool) : Tunes :=
  { t with begun := Function.update t.begun receiver on }

/-- The tune of a receiver was committed. -/
def tuneCommitted (t : Tunes) (receiver : Nat) : Tunes :=
  { t with committed := Function.update t.committed receiver (t.begun receiver) }

/-- A receiver was released. -/
def released (t : Tunes) (receiver : Nat) : Tunes :=
  { t with committed := Function.update t.committed receiver false }

/-- All receivers were released. -/
def allReleased (t : Tunes) : Tunes := { t with committed := fun _ => false }

/-- What an operation with this result begins, commits and releases. -/
def note (w : Wiring) (t : Tunes) (op : Operation) (result : Result Unit) : Tunes :=
  match op, result with
  | .begin receiver on, .ok () => t.tuneBegun receiver on
  | .commit receiver, .ok () => t.tuneCommitted receiver
  | .release receiver, _ => if w.valid receiver then t.released receiver else t
  | .shutdown, _ => t.allReleased
  | _, _ => t

end Tunes

end Px4.Lnb
