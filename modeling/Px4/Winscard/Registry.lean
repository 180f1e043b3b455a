import Px4.Core

/-!
# The tables of the WinSCard proxy (`winscard_proxy.cpp`)

The contexts and cards behind the public handles, the memory that a context has given to its
callers, the native context and the list of readers. What Windows, the native service and the local
card clients answer comes in a `Reply` and is arbitrary. Texts are lists of code units; the contents
of the callers' buffers and the native card handle, which only the native service reads, are left
out.
-/

namespace Px4.Winscard

/-- A `SCARDCONTEXT` or `SCARDHANDLE` that the proxy gives out. -/
abbrev Handle := Nat

/-- The address of a block of the process heap. -/
abbrev Block := Nat

/-- A text without its final NUL. -/
abbrev Text := List Nat

def kMaxContexts : Nat := 64
def kMaxCards : Nat := 256
def kMaxReaderCharacters : Nat := 65536
def kMaxReaderName : Nat := 1024
def kMaxAllocations : Nat := 64
def kMaxAllocatedBytes : Nat := 1024 * 1024
def kReaderPrefix : Text := "PX4 userland (".toList.map Char.toNat

/-- `SCARD_AUTOALLOCATE`. -/
def kAutoAllocate : Nat := 0xFFFFFFFF

/-- A `LONG` result. `other` is any code that the proxy neither gives nor looks for. -/
inductive Scard
  | success | invalidHandle | invalidParameter | invalidValue | unsupportedFeature | noMemory
  | insufficientBuffer | noReadersAvailable | noService | serviceStopped | protoMismatch
  | unknownReader | commError | internalError | sharingViolation | noSmartcard | removedCard
  | readerUnavailable | timeout
  | other (code : Nat)
  deriving DecidableEq, Repr

/-- `map_error`. -/
def mapError : Error → Scard
  | .invalidArgument => .invalidParameter
  | .busy => .sharingViolation
  | .noCard => .noSmartcard
  | .cardRemoved | .disconnected => .removedCard
  | .notFound => .invalidHandle
  | .notReady => .readerUnavailable
  | .timeout => .timeout
  | .bufferTooSmall => .insufficientBuffer
  | .unsupported => .unsupportedFeature
  | _ => .commError

/-- `Reader`: a device with a card reader that `list_readers` has found. -/
structure Reader where
  deviceInstance : String
  displayName : Text
  deriving DecidableEq, Repr

/-- `ReaderEntry`. With an empty instance the reader is one of Windows. -/
structure ReaderEntry where
  name : Text
  deviceInstance : String
  deriving DecidableEq, Repr

/-- What the native service lists, after both calls and the retries. -/
inductive NativeList
  | names (texts : List Text)
  | failed (result : Scard)
  | malformed
  deriving DecidableEq, Repr

/-- What a step learns from outside. `result` is what the native function of the step gives,
`client` what the operation of the local client gives: a size, where it gives data. -/
structure Reply where
  complete : Bool := true
  root : Result Unit := .ok ()
  establish : Scard × Nat := (.success, 1)
  establishAgain : Scard × Nat := (.success, 1)
  readers : Result (List Reader) := .ok []
  native : NativeList := .names []
  result : Scard := .success
  protocol : Nat := 0
  client : Result Nat := .ok 0
  snapshot : Nat × Nat := (0, 0)
  block : Option Block := none
  secondBlock : Option Block := none
  freed : Block → Bool := fun _ => true

/-! ## Contexts -/

/-- `Context`; `locked` is the state of its mutex, and a `native` of zero is no native context. -/
structure Context where
  released : Bool := false
  native : Nat := 0
  allocations : List (Block × Nat) := []
  allocatedBytes : Nat := 0
  locked : Bool := false
  deriving DecidableEq, Repr

namespace Context

/-- The block is in `allocations`. -/
def has (c : Context) (memory : Block) : Bool := c.allocations.any fun a => a.1 == memory

/-- `ensure_native_context`. -/
def ensureNative (c : Context) (complete : Bool) (establish : Scard × Nat) : Context × Scard :=
  if !complete then (c, .noService)
  else if c.native ≠ 0 then (c, .success)
  else if establish.1 = .success then
    if establish.2 = 0 then (c, .commError) else ({ c with native := establish.2 }, .success)
  else (c, establish.1)

/-- `allocate_memory`. `HeapAlloc` gives no block, or one that is not allocated: not `taken` by any
context. -/
def allocateMemory (c : Context) (taken : Block → Bool) (block : Option Block) (bytes : Nat) :
    Context × Option Block :=
  let bytes := max 1 bytes
  if kMaxAllocations ≤ c.allocations.length ∨
      sizeSub kMaxAllocatedBytes c.allocatedBytes < bytes then (c, none)
  else match block with
    | none => (c, none)
    | some memory =>
      if taken memory || c.has memory then (c, none)
      else ({ c with
        allocations := c.allocations ++ [(memory, bytes)]
        allocatedBytes := c.allocatedBytes + bytes }, some memory)

/-- `free_memory`, with what `HeapFree` answers. -/
def freeMemory (c : Context) (freed : Block → Bool) (memory : Block) : Context × Bool :=
  match c.allocations.find? (fun a => a.1 == memory) with
  | none => (c, false)
  | some found =>
    if !freed memory then (c, false)
    else ({ c with
      allocatedBytes := sizeSub c.allocatedBytes found.2
      allocations := c.allocations.filter fun a => a.1 != memory }, true)

/-- The loop of `SCardReleaseContext` over `allocations`: a block that is not freed is dropped. -/
def freeAll (freed : Block → Bool) : Nat → Context → Context × Scard
  | 0, c => (c, .success)
  | fuel + 1, c =>
    match c.allocations with
    | [] => (c, .success)
    | first :: rest =>
      match c.freeMemory freed first.1 with
      | (c, true) => freeAll freed fuel c
      | (c, false) => ((freeAll freed fuel { c with allocations := rest }).1, .internalError)

end Context

/-! ## Readers -/

/-- The names that the native service lists. -/
def NativeList.listed : NativeList → List Text
  | .names texts => texts
  | _ => []

/-- The result of the last native call. -/
def NativeList.result : NativeList → Scard
  | .names _ => .success
  | .failed result => result
  | .malformed => .commError

/-- The local readers, without those whose name a native reader has. -/
def virtualReaders (readers : Result (List Reader)) (native : List Text) : List ReaderEntry :=
  match readers with
  | .ok items => (items.filter fun item => !native.contains item.displayName).map fun item =>
    ⟨item.displayName, item.deviceInstance⟩
  | .error _ => []

/-- `collect_readers`. -/
def collectReaders (c : Context) (r : Reply) : Context × Scard × List ReaderEntry :=
  let (c, ensured) := c.ensureNative r.complete r.establish
  let fromNative := if ensured = .success then r.native else .failed ensured
  if fromNative = .malformed then (c, .commError, [])
  else
    let readers := virtualReaders r.readers fromNative.listed ++ fromNative.listed.map (⟨·, ""⟩)
    if readers ≠ [] then (c, .success, readers)
    else match r.readers with
      | .error e => (c, mapError e, readers)
      | .ok _ =>
        if fromNative.result = .success ∨ fromNative.result = .noService ∨
            fromNative.result = .serviceStopped then (c, .noReadersAvailable, readers)
        else (c, fromNative.result, readers)

/-! ## Cards and the registry -/

/-- `Card`; `hasLocal` says that `local` holds a client, and `locked` is the state of the mutex. -/
structure Card where
  active : Bool := true
  owner : Nat
  hasLocal : Bool := false
  readerName : Text := []
  locked : Bool := false
  deriving DecidableEq, Repr

/-- What has happened. A local client is named by its card. -/
inductive Event
  | gaveContext (handle : Handle) (context : Nat)
  | gaveCard (handle : Handle) (card : Nat)
  | opened (card : Nat)
  | destroyed (card : Nat)
  | reached (handle : Handle) (card : Nat)
  | disconnected (handle : Handle) (card : Nat)
  | passed (card : Nat)
  | established (context : Nat)
  | releasedNative (context : Nat)
  | retired (context : Nat)
  deriving DecidableEq, Repr

/-- `Registry`, and the contexts and cards that were ever made, by their number. Handles are given
out in ascending order, so that a table in the order of its entries is one in the order of its keys.
The `log` is what has happened, latest first. -/
structure Shared where
  contexts : List (Handle × Nat) := []
  cards : List (Handle × Nat) := []
  next : Nat := 0x50580000
  context : Nat → Context := fun _ => {}
  contextCount : Nat := 0
  card : Nat → Card := fun _ => { active := false, owner := 0 }
  cardCount : Nat := 0
  log : List Event := []

namespace Shared

/-- Something happens. -/
def record (s : Shared) (e : Event) : Shared := { s with log := e :: s.log }

/-- The same, under a condition. -/
def recordIf (s : Shared) (p : Bool) (e : Event) : Shared := if p then s.record e else s

/-- A context changes; a native context that is new is recorded. -/
def setContext (s : Shared) (x : Nat) (c : Context) : Shared :=
  { s with context := Function.update s.context x c }.recordIf
    ((s.context x).native == 0 && c.native != 0) (.established x)

/-- A card changes. -/
def setCard (s : Shared) (y : Nat) (k : Card) : Shared :=
  { s with card := Function.update s.card y k }

/-- The mutex of a context. -/
def lockContext (s : Shared) (x : Nat) (locked : Bool) : Shared :=
  s.setContext x { s.context x with locked }

/-- The mutex of a card. -/
def lockCard (s : Shared) (y : Nat) (locked : Bool) : Shared :=
  s.setCard y { s.card y with locked }

/-- A block that is in the `allocations` of some context. -/
def taken (s : Shared) (memory : Block) : Bool :=
  (List.range s.contextCount).any fun x => (s.context x).has memory

/-- `find_context`. -/
def findContext (s : Shared) (handle : Handle) : Option Nat := s.contexts.lookup handle

/-- `find_card`. -/
def findCard (s : Shared) (handle : Handle) : Option Nat := s.cards.lookup handle

/-- `Registry::allocate`, with the largest `std::uintptr_t`. -/
def allocate (s : Shared) (max : Nat) : Shared × Handle :=
  if s.next = max then (s, 0) else ({ s with next := s.next + 1 }, s.next)

/-- `make_shared<Context>`. -/
def newContext (s : Shared) : Shared × Nat :=
  ({ s with
    context := Function.update s.context s.contextCount {}
    contextCount := s.contextCount + 1 }, s.contextCount)

/-- `make_shared<Card>`. -/
def newCard (s : Shared) (k : Card) : Shared × Nat :=
  ({ s with
    card := Function.update s.card s.cardCount k
    cardCount := s.cardCount + 1 }.recordIf k.hasLocal (.opened s.cardCount), s.cardCount)

/-- The section of `SCardEstablishContext` under the mutex of the registry. -/
def publishContext (s : Shared) (max : Nat) (x : Nat) : Shared × Handle :=
  let (s, id) := if s.contexts.length < kMaxContexts then s.allocate max else (s, 0)
  if id ≠ 0 then
    ({ s with contexts := s.contexts ++ [(id, x)] }.record (.gaveContext id x), id)
  else (s, id)

/-- The section of `connect` under the mutex of the registry. -/
def publishCard (s : Shared) (max : Nat) (y : Nat) : Shared × Handle :=
  let (s, id) := if s.cards.length < kMaxCards then s.allocate max else (s, 0)
  if id ≠ 0 then ({ s with cards := s.cards ++ [(id, y)] }.record (.gaveCard id y), id)
  else (s, id)

/-- The section of `SCardReleaseContext` under the mutex of the registry. -/
def eraseContext (s : Shared) (handle : Handle) (x : Nat) : Shared × List Nat :=
  ({ s with
    contexts := s.contexts.filter fun entry => entry.1 != handle
    cards := s.cards.filter fun entry => (s.card entry.2).owner != x },
    (s.cards.filter fun entry => (s.card entry.2).owner == x).map Prod.snd)

/-- The section of `SCardDisconnect` under the mutex of the registry. -/
def eraseCard (s : Shared) (handle : Handle) : Shared :=
  { s with cards := s.cards.filter fun entry => entry.1 != handle }

/-- The card is deactivated, and its local client destroyed. -/
def deactivate (s : Shared) (y : Nat) : Shared :=
  (s.setCard y { s.card y with active := false, hasLocal := false }).recordIf (s.card y).hasLocal
    (.destroyed y)

/-- The context is given up, and its native context released. -/
def retire (s : Shared) (x : Nat) : Shared :=
  (s.recordIf ((s.context x).native != 0) (.releasedNative x)).record (.retired x)

end Shared

end Px4.Winscard
