import Px4.Lib.Interleave
import Px4.Winscard.Registry

/-!
# The calls of the WinSCard proxy (`winscard_proxy.cpp`)

`SCardEstablishContext`, `SCardListReaders`, `SCardConnect`, `SCardFreeMemory`,
`SCardReleaseContext`, `SCardTransmit`, `SCardStatus` and `SCardDisconnect` between their mutexes. A
`Caller` is a call with its place: between two places there is one section under the mutex of the
registry, or what the call does between two operations on the mutexes of its context and its card;
for calls through a card handle, the check of `active` and the use of the card are steps of their
own. `advance` is that step. A caller at a mutex that is held stays where it is.
-/

namespace Px4.Winscard

/-- What a call gives back: its result and, where the call gives them, the handle, the protocol, the
lengths and the blocks of memory. -/
structure Answer where
  result : Scard
  handle : Handle := 0
  protocol : Nat := 0
  lengths : List Nat := []
  memory : List Block := []
  deriving DecidableEq, Repr

/-- The parameters of `SCardListReaders`; `width` is the size of a character. -/
structure ListArgs where
  width : Nat
  groups : Bool
  output : Bool
  length : Option Nat
  deriving DecidableEq, Repr

/-- `SCARD_SHARE_EXCLUSIVE`, `SCARD_SHARE_SHARED` and the other share modes. -/
inductive Share
  | exclusive | shared | other
  deriving DecidableEq, Repr

/-- The parameters of `SCardConnect`; of `protocols` the bit of T1, and whether there is one that is
neither T0 nor T1. -/
structure ConnectArgs where
  reader : Option Text
  outputs : Bool
  share : Share
  t1 : Bool
  otherProtocol : Bool
  deriving DecidableEq, Repr

/-- `SCARD_IO_REQUEST`. -/
structure IoRequest where
  protocol : Nat
  pciLength : Nat
  deriving DecidableEq, Repr

/-- `sizeof(SCARD_IO_REQUEST)`. -/
def kIoRequestSize : Nat := 8

/-- `SCARD_PROTOCOL_T1`. -/
def kProtocolT1 : Nat := 2

/-- The parameters of `SCardTransmit`. -/
structure TransmitArgs where
  sendPci : Option IoRequest
  send : Bool
  sendLength : Nat
  receivePci : Option IoRequest
  receive : Bool
  receiveLength : Option Nat
  deriving DecidableEq, Repr

/-- The parameters of `SCardStatusW` for the two buffers. -/
structure StatusArgs where
  names : Bool
  nameLength : Option Nat
  atr : Bool
  atrLength : Option Nat
  deriving DecidableEq, Repr

/-- `SCARD_LEAVE_CARD`, `SCARD_RESET_CARD`, `SCARD_UNPOWER_CARD`, `SCARD_EJECT_CARD`, or none of
them. -/
inductive Disposition
  | leave | reset | unpower | eject | other
  deriving DecidableEq, Repr

/-- `SCARD_SCOPE_USER`, `SCARD_SCOPE_SYSTEM` and the other scopes. -/
inductive Scope
  | user | system | other
  deriving DecidableEq, Repr

/-- The calls through a context handle. -/
inductive ContextCall
  | listReaders (args : ListArgs)
  | connect (args : ConnectArgs)
  | freeMemory (memory : Block)
  | releaseContext
  deriving DecidableEq, Repr

/-- The calls through a card handle. -/
inductive CardCall
  | transmit (args : TransmitArgs)
  | status (args : StatusArgs)
  | disconnect (disposition : Disposition)
  deriving DecidableEq, Repr

/-- The calls. -/
inductive Call
  | establishContext (output reserved : Bool) (scope : Scope)
  | context (handle : Handle) (call : ContextCall)
  | card (handle : Handle) (call : CardCall)
  deriving DecidableEq, Repr

/-! ## Where a call is -/

/-- The places in `SCardEstablishContext`: before its context is made, with the context, and with
one that found no room in the registry. -/
inductive EstablishPlace
  | start
  | publish (context : Nat)
  | abandon (context : Nat)
  | returned (answer : Answer)
  deriving DecidableEq, Repr

/-- The places in a call through a context handle. From `within` to `unlock` it holds the mutex of
the context. -/
inductive ContextPlace
  | find
  | lock (context : Nat)
  | within (context : Nat)
  | publish (context card protocol : Nat)
  | abandon (context card : Nat)
  | erase (context : Nat)
  | lockCard (context : Nat) (owned : List Nat)
  | pass (context card : Nat) (owned : List Nat)
  | free (context : Nat)
  | releaseNative (context : Nat) (cleanup : Scard)
  | unlock (context : Nat) (answer : Answer)
  | returned (answer : Answer)
  deriving DecidableEq, Repr

/-- The places in a call through a card handle. `held` is the context whose mutex it holds. -/
inductive CardPlace
  | find
  | lockOwner (card : Nat)
  | checkOwner (card context : Nat)
  | lock (card : Nat) (held : Option Nat)
  | check (card : Nat) (held : Option Nat)
  | use (card : Nat) (held : Option Nat)
  | erase (card : Nat) (result : Scard)
  | unlock (card : Nat) (held : Option Nat) (answer : Answer)
  | unlockOwner (context : Nat) (answer : Answer)
  | returned (answer : Answer)
  deriving DecidableEq, Repr

/-- A call and its place. -/
inductive Caller
  | establish (place : EstablishPlace)
  | context (handle : Handle) (call : ContextCall) (place : ContextPlace)
  | card (handle : Handle) (call : CardCall) (place : CardPlace)
  deriving DecidableEq, Repr

/-! ## The parameters -/

/-- The checks before `find_context`. -/
def ContextCall.check : ContextCall → Option Scard
  | .listReaders args =>
    if args.length = none then some .invalidParameter
    else if args.groups then some .unsupportedFeature else none
  | .connect args =>
    match args.reader with
    | none => some .invalidParameter
    | some name =>
      if !args.outputs ∨ name = [] ∨ kMaxReaderName ≤ name.length then some .invalidParameter
      else none
  | .freeMemory _ | .releaseContext => none

/-- The checks before `find_card`. -/
def CardCall.check : CardCall → Option Scard
  | .status args =>
    if (args.names ∧ args.nameLength = none) ∨ (args.atr ∧ args.atrLength = none) then
      some .invalidParameter
    else none
  | .transmit _ | .disconnect _ => none

/-- A call comes in. -/
def begin : Call → Caller
  | .establishContext output reserved scope =>
    if !output ∨ reserved then .establish (.returned { result := .invalidParameter })
    else if scope = .other then .establish (.returned { result := .invalidValue })
    else .establish .start
  | .context h call =>
    match call.check with
    | some result => .context h call (.returned { result })
    | none => .context h call .find
  | .card h call =>
    match call.check with
    | some result => .card h call (.returned { result })
    | none => .card h call .find

/-! ## What a call does within its context or card -/

/-- The characters of a list of readers, with all NULs: no more than `kMaxReaderCharacters`. -/
def required : List ReaderEntry → Nat → Option Nat
  | [], n => some n
  | reader :: readers, n =>
    if kMaxReaderCharacters - n < reader.name.length + 1 then none
    else required readers (n + (reader.name.length + 1))

/-- `list`, within the context. -/
def listReaders (c : Context) (taken : Block → Bool) (r : Reply) (args : ListArgs) :
    Context × Answer :=
  let (c, result, readers) := collectReaders c r
  if result ≠ .success then
    (c, { result, lengths := if result = .noReadersAvailable then [0] else [] })
  else match required readers 1 with
    | none => (c, { result := .noMemory })
    | some size =>
      if !args.output then (c, { result := .success, lengths := [size] })
      else if args.length = some kAutoAllocate then
        match c.allocateMemory taken r.block (size * args.width) with
        | (c, none) => (c, { result := .noMemory, lengths := [size] })
        | (c, some memory) => (c, { result := .success, lengths := [size], memory := [memory] })
      else if args.length.getD 0 < size then
        (c, { result := .insufficientBuffer, lengths := [size] })
      else (c, { result := .success, lengths := [size] })

/-- A reader that `connect` has connected to. -/
structure Connected where
  hasLocal : Bool
  readerName : Text
  protocol : Nat
  deriving DecidableEq, Repr

/-- `connect`, within the context and up to the registry. A card that gets no reader is not made. -/
def connectReader (c : Context) (r : Reply) (args : ConnectArgs) :
    Context × Except Scard Connected :=
  let (c, listed, readers) := collectReaders c r
  let name := args.reader.getD []
  let found := readers.find? fun entry => entry.name == name
  if listed ≠ .success ∧ listed ≠ .noReadersAvailable then (c, .error listed)
  else if (found.map ReaderEntry.deviceInstance).getD "" ≠ "" then
    if args.share = .other then (c, .error .unsupportedFeature)
    else if args.otherProtocol then (c, .error .invalidParameter)
    else if !args.t1 then (c, .error .protoMismatch)
    else match r.client with
      | .error e => (c, .error (mapError e))
      | .ok _ => (c, .ok ⟨true, name, kProtocolT1⟩)
  else if found = none ∧ kReaderPrefix.isPrefixOf name then
    match r.readers with
    | .error e => (c, .error (mapError e))
    | .ok _ => (c, .error .unknownReader)
  else
    let (c, available) := c.ensureNative r.complete r.establishAgain
    if available ≠ .success then (c, .error available)
    else if r.result ≠ .success then (c, .error r.result)
    else (c, .ok ⟨false, [], r.protocol⟩)

/-- `SCardTransmit`: the checks before the local client is used. -/
def TransmitArgs.refused (args : TransmitArgs) : Option Scard :=
  match args.sendPci, args.receiveLength with
  | some pci, some capacity =>
    if !args.send ∨ args.sendLength = 0 ∨ 4096 < args.sendLength ∨ !args.receive ∨
        pci.pciLength ≠ kIoRequestSize ∨ args.receivePci.any (·.pciLength < kIoRequestSize) then
      some .invalidParameter
    else if capacity = kAutoAllocate then some .invalidParameter
    else if pci.protocol ≠ kProtocolT1 then some .protoMismatch
    else none
  | _, _ => some .invalidParameter

/-- `card_status`: the sizes of the names and of the ATR. -/
def cardStatus (k : Card) (r : Reply) : Except Scard (Nat × Nat) :=
  if k.hasLocal then
    match r.client with
    | .error e => .error (mapError e)
    | .ok atr => .ok (k.readerName.length + 2, atr)
  else if r.result ≠ .success then .error r.result
  else .ok r.snapshot

/-- `SCardStatusW`, from the snapshot on; the size of a `wchar_t` is 2. -/
def answerStatus (c : Context) (taken : Block → Bool) (r : Reply) (args : StatusArgs)
    (names atr : Nat) : Context × Answer :=
  let allocateNames := args.names && args.nameLength == some kAutoAllocate
  let allocateAtr := args.atr && args.atrLength == some kAutoAllocate
  if (args.names ∧ !allocateNames ∧ args.nameLength.getD 0 < names) ∨
      (args.atr ∧ !allocateAtr ∧ args.atrLength.getD 0 < atr) then
    (c, { result := .insufficientBuffer, lengths := [names, atr] })
  else
    let (c, nameMemory) :=
      if allocateNames then c.allocateMemory taken r.block (names * 2) else (c, none)
    if allocateNames ∧ nameMemory = none then
      (c, { result := .noMemory, lengths := [names, atr] })
    else
      let (c, atrMemory) :=
        if allocateAtr then c.allocateMemory taken r.secondBlock atr else (c, none)
      if allocateAtr ∧ atrMemory = none then
        let c := match nameMemory with
          | none => c
          | some memory => (c.freeMemory r.freed memory).1
        (c, { result := .noMemory, lengths := [names, atr] })
      else
        (c, { result := .success, lengths := [names, atr],
              memory := nameMemory.toList ++ atrMemory.toList })

/-! ## The steps -/

section

variable (max : Nat) (r : Reply) (s : Shared)

/-- A step of `SCardEstablishContext`. -/
def stepEstablish : EstablishPlace → Shared × EstablishPlace
  | .start =>
    let (s, x) := s.newContext
    let (c, result) := (s.context x).ensureNative r.complete r.establish
    let s := s.setContext x c
    if result ≠ .success ∧ result ≠ .noService ∧ result ≠ .serviceStopped then
      (s.record (.retired x), .returned { result })
    else match r.root with
      | .error e =>
        if result ≠ .success then (s.record (.retired x), .returned { result := mapError e })
        else (s, .publish x)
      | .ok () => (s, .publish x)
  | .publish x =>
    let (s, id) := s.publishContext max x
    if id = 0 then (s, .abandon x) else (s, .returned { result := .success, handle := id })
  | .abandon x => (s.retire x, .returned { result := .noMemory })
  | .returned answer => (s, .returned answer)

/-- What a call through a context handle does within the context, if it is not released. -/
def withinContext (x : Nat) : ContextCall → Shared × ContextPlace
  | .listReaders args =>
    let (c, answer) := listReaders (s.context x) s.taken r args
    (s.setContext x c, .unlock x answer)
  | .connect args =>
    match connectReader (s.context x) r args with
    | (c, .error result) => (s.setContext x c, .unlock x { result })
    | (c, .ok card) =>
      let (s, y) := (s.setContext x c).newCard
        { owner := x, hasLocal := card.hasLocal, readerName := card.readerName }
      (s, .publish x y card.protocol)
  | .freeMemory memory =>
    let (c, found) := (s.context x).freeMemory r.freed memory
    (s.setContext x c, .unlock x { result := if found then .success else .invalidParameter })
  | .releaseContext => (s.setContext x { s.context x with released := true }, .erase x)

/-- A step of a call through a context handle. -/
def stepContext (h : Handle) (call : ContextCall) : ContextPlace → Shared × ContextPlace
  | .find =>
    match s.findContext h with
    | none => (s, .returned { result := .invalidHandle })
    | some x => (s, .lock x)
  | .lock x =>
    if (s.context x).locked then (s, .lock x) else (s.lockContext x true, .within x)
  | .within x =>
    if (s.context x).released then (s, .unlock x { result := .invalidHandle })
    else withinContext r s x call
  | .publish x y protocol =>
    let (s, id) := s.publishCard max y
    if id = 0 then (s, .abandon x y)
    else (s, .unlock x { result := .success, handle := id, protocol })
  | .abandon x y => (s.deactivate y, .unlock x { result := .noMemory })
  | .erase x =>
    let (s, owned) := s.eraseContext h x
    (s, .lockCard x owned)
  | .lockCard x [] => (s, .free x)
  | .lockCard x (y :: owned) =>
    if (s.card y).locked then (s, .lockCard x (y :: owned))
    else (s.lockCard y true, .pass x y owned)
  | .pass x y owned =>
    (((s.deactivate y).record (.passed y)).lockCard y false, .lockCard x owned)
  | .free x =>
    let (c, cleanup) := (s.context x).freeAll r.freed (s.context x).allocations.length
    (s.setContext x c, .releaseNative x cleanup)
  | .releaseNative x cleanup =>
    let result := if (s.context x).native ≠ 0 then r.result else .success
    (s.retire x, .unlock x { result := if cleanup ≠ .success then cleanup else result })
  | .unlock x answer => (s.lockContext x false, .returned answer)
  | .returned answer => (s, .returned answer)

/-- What a call through a card handle does with an active card. -/
def useCard (h : Handle) (y : Nat) (held : Option Nat) : CardCall → Shared × CardPlace
  | .transmit args =>
    if !(s.card y).hasLocal then
      (s.record (.reached h y), .unlock y held { result := r.result })
    else match args.refused with
      | some result => (s, .unlock y held { result })
      | none =>
        let s := s.record (.reached h y)
        match r.client with
        | .error e => (s, .unlock y held { result := mapError e })
        | .ok size =>
          (s, .unlock y held { result := if args.receiveLength.getD 0 < size then
            .insufficientBuffer else .success, lengths := [size] })
  | .status args =>
    let s := s.record (.reached h y)
    let x := (s.card y).owner
    match cardStatus (s.card y) r with
    | .error result => (s, .unlock y held { result })
    | .ok (names, atr) =>
      let (c, answer) := answerStatus (s.context x) s.taken r args names atr
      (s.setContext x c, .unlock y held answer)
  | .disconnect disposition =>
    if disposition = .other then (s, .unlock y held { result := .invalidValue })
    else if (s.card y).hasLocal ∧ disposition ≠ .leave ∧ disposition ≠ .reset then
      (s, .unlock y held { result := .unsupportedFeature })
    else if (s.card y).hasLocal then
      let s := ((s.record (.reached h y)).deactivate y).record (.disconnected h y)
      match r.client with
      | .error e => (s, .erase y (mapError e))
      | .ok _ => (s, .erase y .success)
    else if r.result ≠ .success then
      (s.record (.reached h y), .unlock y held { result := r.result })
    else (((s.record (.reached h y)).deactivate y).record (.disconnected h y), .erase y .success)

/-- A step of a call through a card handle. -/
def stepCard (h : Handle) (call : CardCall) : CardPlace → Shared × CardPlace
  | .find =>
    match s.findCard h, call with
    | none, _ => (s, .returned { result := .invalidHandle })
    | some y, .status _ => (s, .lockOwner y)
    | some y, _ => (s, .lock y none)
  | .lockOwner y =>
    let x := (s.card y).owner
    if (s.context x).locked then (s, .lockOwner y) else (s.lockContext x true, .checkOwner y x)
  | .checkOwner y x =>
    if (s.context x).released then (s, .unlockOwner x { result := .invalidHandle })
    else (s, .lock y (some x))
  | .lock y held =>
    if (s.card y).locked then (s, .lock y held) else (s.lockCard y true, .check y held)
  | .check y held =>
    if (s.card y).active then (s, .use y held)
    else (s, .unlock y held { result := .invalidHandle })
  | .use y held => useCard r s h y held call
  | .erase y result => (s.eraseCard h, .unlock y none { result })
  | .unlock y held answer =>
    (s.lockCard y false,
      match held with
      | none => .returned answer
      | some x => .unlockOwner x answer)
  | .unlockOwner x answer => (s.lockContext x false, .returned answer)
  | .returned answer => (s, .returned answer)

/-- The next step of a call. -/
def advance : Caller → Shared × Caller
  | .establish place =>
    let (s, place) := stepEstablish max r s place
    (s, .establish place)
  | .context h call place =>
    let (s, place) := stepContext max r s h call place
    (s, .context h call place)
  | .card h call place =>
    let (s, place) := stepCard r s h call place
    (s, .card h call place)

end

/-- Every interleaving: calls come in, and any of them takes its next step with any reply. `max` is
the largest `std::uintptr_t`. -/
def run (max : Nat) (moves : List (Lib.Move Call Reply)) : Lib.Pool Shared Caller :=
  Lib.Pool.run begin (fun r s c => advance max r s c) { shared := {} } moves

end Px4.Winscard
