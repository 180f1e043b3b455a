import Px4.Winscard.Proof.Steps

/-!
# What a call holds, and what it may rely on

What a call holds at its place (`holdsContext`, `holdsCard`, `retires`, `making`, `gives`), what it
may rely on there (`Caller.Ok`), and what a step of one call can change of what the others rely on
(`Change`).
-/

namespace Px4.Winscard

/-! ## What a call holds -/

namespace Caller

/-- The context whose mutex the call holds. -/
def holdsContext : Caller → Option Nat
  | .establish _ => none
  | .context _ _ place =>
    match place with
    | .within x | .publish x _ _ | .abandon x _ | .erase x | .lockCard x _ | .pass x _ _ | .free x
    | .releaseNative x _ | .unlock x _ => some x
    | .find | .lock _ | .returned _ => none
  | .card _ _ place =>
    match place with
    | .checkOwner _ x | .unlockOwner x _ => some x
    | .lock _ held | .check _ held | .use _ held | .unlock _ held _ => held
    | .find | .lockOwner _ | .erase _ _ | .returned _ => none

/-- The card whose mutex the call holds. -/
def holdsCard : Caller → Option Nat
  | .context _ _ (.pass _ y _) => some y
  | .card _ _ (.check y _) | .card _ _ (.use y _) | .card _ _ (.erase y _)
  | .card _ _ (.unlock y _ _) => some y
  | _ => none

/-- The context that the call has to bring into the registry or to its end. -/
def retires : Caller → Option Nat
  | .establish (.publish x) | .establish (.abandon x) | .context _ _ (.erase x)
  | .context _ _ (.lockCard x _) | .context _ _ (.pass x _ _) | .context _ _ (.free x)
  | .context _ _ (.releaseNative x _) => some x
  | _ => none

/-- The card that the call has made and has to bring into the registry or to close. -/
def making : Caller → Option Nat
  | .context _ _ (.publish _ y _) | .context _ _ (.abandon _ y) => some y
  | _ => none

/-- The cards that the call has to close. -/
def owned : Caller → List Nat
  | .context _ _ (.lockCard _ owned) => owned
  | .context _ _ (.pass _ y owned) => y :: owned
  | _ => []

/-- The answer that the call has come to. -/
def answer? : Caller → Option Answer
  | .establish (.returned answer) | .context _ _ (.unlock _ answer)
  | .context _ _ (.returned answer) => some answer
  | _ => none

/-- The handle that the call gives. -/
def handle? (c : Caller) : Option Handle :=
  (c.answer?.map Answer.handle).filter (· ≠ 0)

def inContext (x : Nat) (c : Caller) : Bool := c.holdsContext == some x
def inCard (y : Nat) (c : Caller) : Bool := c.holdsCard == some y
def retiring (x : Nat) (c : Caller) : Bool := c.retires == some x
def gives (h : Handle) (c : Caller) : Bool := c.handle? == some h

end Caller

/-! ## What a call may rely on -/

namespace Shared

/-- The card of a call that has yet to give it a handle. -/
structure Making (s : Shared) (x y : Nat) : Prop where
  live : (s.context x).released = false
  made : y < s.cardCount
  owner : (s.card y).owner = x
  active : (s.card y).active = true
  unhanded : ∀ h, .gaveCard h y ∉ s.log

/-- The context of a call that releases it, out of the registry. -/
structure Erased (s : Shared) (x : Nat) : Prop where
  released : (s.context x).released = true
  erased : ∀ h, (h, x) ∉ s.contexts

/-- A card of a context that is released. -/
def OwnedBy (s : Shared) (x y : Nat) : Prop :=
  (s.card y).owner = x ∧ ∃ h, .gaveCard h y ∈ s.log

end Shared

/-- At a place in `SCardEstablishContext`. -/
def EstablishPlace.Ok (s : Shared) : EstablishPlace → Prop
  | .publish x | .abandon x =>
    x < s.contextCount ∧ (s.context x).released = false ∧ ∀ h, .gaveContext h x ∉ s.log
  | .start | .returned _ => True

/-- At a place in a call through a context handle. -/
def ContextPlace.Ok (s : Shared) (h : Handle) (call : ContextCall) : ContextPlace → Prop
  | .find => True
  | .lock x | .within x => .gaveContext h x ∈ s.log
  | .publish x y _ | .abandon x y =>
    .gaveContext h x ∈ s.log ∧ s.Making x y ∧ call ≠ .releaseContext
  | .erase x => .gaveContext h x ∈ s.log ∧ (s.context x).released = true
  | .lockCard x owned => .gaveContext h x ∈ s.log ∧ s.Erased x ∧ ∀ y ∈ owned, s.OwnedBy x y
  | .pass x y owned => .gaveContext h x ∈ s.log ∧ s.Erased x ∧ ∀ z ∈ y :: owned, s.OwnedBy x z
  | .free x | .releaseNative x _ => .gaveContext h x ∈ s.log ∧ s.Erased x
  | .unlock x answer =>
    .gaveContext h x ∈ s.log ∧
      (call = .releaseContext → answer.result = .success → .retired x ∈ s.log)
  | .returned answer =>
    call = .releaseContext → answer.result = .success →
      ∃ x, .gaveContext h x ∈ s.log ∧ .retired x ∈ s.log

/-- The context whose mutex a call through a card handle holds. -/
def HeldOk (s : Shared) (call : CardCall) (y : Nat) (held : Option Nat) : Prop :=
  held = none ∨ held = some (s.card y).owner ∧ ∃ args, call = .status args

/-- A successful `SCardDisconnect` has disconnected its card. -/
def DisconnectOk (s : Shared) (h : Handle) (call : CardCall) (answer : Answer) : Prop :=
  (∃ disposition, call = .disconnect disposition) → answer.result = .success →
    ∃ y, .disconnected h y ∈ s.log

/-- At a place in a call through a card handle. -/
def CardPlace.Ok (s : Shared) (h : Handle) (call : CardCall) : CardPlace → Prop
  | .find => True
  | .lockOwner y => .gaveCard h y ∈ s.log ∧ ∃ args, call = .status args
  | .checkOwner y x =>
    .gaveCard h y ∈ s.log ∧ (s.card y).owner = x ∧ ∃ args, call = .status args
  | .lock y held | .check y held => .gaveCard h y ∈ s.log ∧ HeldOk s call y held
  | .use y held => .gaveCard h y ∈ s.log ∧ HeldOk s call y held ∧ (s.card y).active = true
  | .erase y _ =>
    .gaveCard h y ∈ s.log ∧ (s.card y).active = false ∧ .disconnected h y ∈ s.log
  | .unlock y held answer =>
    .gaveCard h y ∈ s.log ∧ HeldOk s call y held ∧ DisconnectOk s h call answer
  | .unlockOwner x answer => x < s.contextCount ∧ DisconnectOk s h call answer
  | .returned answer => DisconnectOk s h call answer

/-- **What a call may rely on** at its place. -/
def Caller.Ok (s : Shared) : Caller → Prop
  | .establish place => place.Ok s
  | .context h call place => place.Ok s h call
  | .card h call place => place.Ok s h call

/-! ## The tables -/

/-- The registry, and the contexts and cards behind it. -/
structure Tables (s : Shared) : Prop where
  next : 0x50580000 ≤ s.next
  room : s.cards.length ≤ kMaxCards
  freshContext : ∀ x, s.contextCount ≤ x → s.context x = {}
  freshCard : ∀ y, s.cardCount ≤ y → s.card y = { active := false, owner := 0 }
  contexts : ∀ h x, (h, x) ∈ s.contexts → .gaveContext h x ∈ s.log
  cards : ∀ h y, (h, y) ∈ s.cards → .gaveCard h y ∈ s.log ∧
    ∃ h', (h', (s.card y).owner) ∈ s.contexts
  gaveContext : ∀ h x, .gaveContext h x ∈ s.log → h < s.next ∧ x < s.contextCount ∧
    ((s.context x).released = true ∨ (h, x) ∈ s.contexts)
  gaveCard : ∀ h y, .gaveCard h y ∈ s.log → h < s.next ∧ y < s.cardCount
  handleOf : ∀ h h' x, .gaveContext h x ∈ s.log → .gaveContext h' x ∈ s.log → h = h'
  contextOf : ∀ h x x', .gaveContext h x ∈ s.log → .gaveContext h x' ∈ s.log → x = x'
  cardOf : ∀ h y y', .gaveCard h y ∈ s.log → .gaveCard h y' ∈ s.log → y = y'
  owner : ∀ y, y < s.cardCount → ∃ h, .gaveContext h (s.card y).owner ∈ s.log

/-! ## What a step changes -/

/-- What a step of a call can change of what the others rely on. -/
structure Change (c : Caller) (s s' : Shared) : Prop where
  log : ∀ e ∈ s.log, e ∈ s'.log
  contextCount : s.contextCount ≤ s'.contextCount
  cardCount : s.cardCount ≤ s'.cardCount
  gaveContext : ∀ h x, .gaveContext h x ∈ s'.log →
    .gaveContext h x ∈ s.log ∨ c.retires = some x
  gaveCard : ∀ h y, .gaveCard h y ∈ s'.log → .gaveCard h y ∈ s.log ∨ c.making = some y
  registered : ∀ h x, (h, x) ∈ s'.contexts →
    (h, x) ∈ s.contexts ∨ ∀ h', .gaveContext h' x ∉ s.log
  released : ∀ x < s.contextCount, (s'.context x).released = (s.context x).released ∨
    c.holdsContext = some x ∧ (∃ h, .gaveContext h x ∈ s.log) ∧ (s'.context x).released = true
  owner : ∀ y < s.cardCount, (s'.card y).owner = (s.card y).owner
  active : ∀ y < s.cardCount, (s'.card y).active = (s.card y).active ∨
    (s'.card y).active = false ∧
      (c.holdsCard = some y ∧ (∃ h, .gaveCard h y ∈ s.log) ∨
        c.making = some y ∧ ∀ h, .gaveCard h y ∉ s.log)

section

variable {s s' : Shared} {c c' d : Caller}

theorem Change.refl (c : Caller) (s : Shared) : Change c s s where
  log _ he := he
  contextCount := Nat.le_refl _
  cardCount := Nat.le_refl _
  gaveContext _ _ := .inl
  gaveCard _ _ := .inl
  registered _ _ := .inl
  released _ _ := .inl rfl
  owner _ _ := rfl
  active _ _ := .inl rfl

/-- A handle is given out. -/
def Event.isHandle : Event → Bool
  | .gaveContext _ _ | .gaveCard _ _ => true
  | _ => false

theorem Change.record (h : Change c s s') {e : Event} (he : e.isHandle = false) :
    Change c s (s'.record e) where
  log _ hm := List.mem_cons_of_mem _ (h.log _ hm)
  contextCount := h.contextCount
  cardCount := h.cardCount
  gaveContext q x hm := by
    rcases List.mem_cons.1 hm with rfl | hm
    · cases he
    · exact h.gaveContext q x hm
  gaveCard q y hm := by
    rcases List.mem_cons.1 hm with rfl | hm
    · cases he
    · exact h.gaveCard q y hm
  registered := h.registered
  released := h.released
  owner := h.owner
  active := h.active

theorem Change.recordIf (h : Change c s s') (p : Bool) {e : Event} (he : e.isHandle = false) :
    Change c s (s'.recordIf p e) := by
  cases p with
  | false => exact h
  | true => exact h.record he

theorem Change.setContext (h : Change c s s') {x : Nat} {k : Context}
    (hreleased : k.released = (s'.context x).released) : Change c s (s'.setContext x k) := by
  have hset : Change c s { s' with context := Function.update s'.context x k } := by
    refine { h with released := fun q hq => ?_ }
    have hsame : (Function.update s'.context x k q).released = (s'.context q).released := by
      by_cases hqx : q = x
      · subst hqx
        rw [Function.update_self, hreleased]
      · rw [Function.update_of_ne hqx]
    dsimp only
    rw [hsame]
    exact h.released q hq
  exact hset.recordIf _ (by rfl)

theorem Change.lockCard (h : Change c s s') (y : Nat) (locked : Bool) :
    Change c s (s'.lockCard y locked) := by
  have hsame (q : Nat) : ((s'.lockCard y locked).card q).owner = (s'.card q).owner ∧
      ((s'.lockCard y locked).card q).active = (s'.card q).active := by
    by_cases hqy : q = y
    · subst hqy
      simp [Shared.lockCard, Shared.setCard]
    · simp [Shared.lockCard, Shared.setCard, Function.update_of_ne hqy]
  refine ⟨h.log, h.contextCount, h.cardCount, h.gaveContext, h.gaveCard, h.registered, h.released,
    fun q hq => ?_, fun q hq => ?_⟩
  · rw [(hsame q).1, h.owner q hq]
  · rw [(hsame q).2]
    exact h.active q hq

theorem Change.deactivate (h : Change c s s') {y : Nat}
    (hy : c.holdsCard = some y ∧ (∃ h, .gaveCard h y ∈ s.log) ∨
      c.making = some y ∧ ∀ h, .gaveCard h y ∉ s.log) : Change c s (s'.deactivate y) := by
  have hcard : Change c s
      (s'.setCard y { s'.card y with active := false, hasLocal := false }) := by
    refine ⟨h.log, h.contextCount, h.cardCount, h.gaveContext, h.gaveCard, h.registered,
      h.released, fun q hq => ?_, fun q hq => ?_⟩
    · rw [← h.owner q hq]
      by_cases hqy : q = y
      · subst hqy
        simp [Shared.setCard]
      · simp [Shared.setCard, Function.update_of_ne hqy]
    · by_cases hqy : q = y
      · subst hqy
        exact .inr ⟨by simp [Shared.setCard], hy⟩
      · simp only [Shared.setCard, Function.update_of_ne hqy]
        exact h.active q hq
  exact hcard.recordIf _ (by rfl)

theorem Change.newContext (c : Caller) (s : Shared) : Change c s s.newContext.1 where
  log _ he := he
  contextCount := Nat.le_succ _
  cardCount := Nat.le_refl _
  gaveContext _ _ := .inl
  gaveCard _ _ := .inl
  registered _ _ := .inl
  released x hx := .inl (by simp [Shared.newContext, Function.update_of_ne (Nat.ne_of_lt hx)])
  owner _ _ := rfl
  active _ _ := .inl rfl

theorem Change.newCard (h : Change c s s') (hcount : s'.cardCount = s.cardCount) (k : Card) :
    Change c s (s'.newCard k).1 := by
  have hmade : Change c s { s' with
      card := Function.update s'.card s'.cardCount k, cardCount := s'.cardCount + 1 } := by
    refine ⟨h.log, h.contextCount, ?_, h.gaveContext, h.gaveCard, h.registered, h.released,
      fun q hq => ?_, fun q hq => ?_⟩
    · dsimp only
      omega
    · rw [← h.owner q hq]
      simp [Function.update_of_ne (show q ≠ s'.cardCount by omega)]
    · simp only [Function.update_of_ne (show q ≠ s'.cardCount by omega)]
      exact h.active q hq
  exact hmade.recordIf _ (by rfl)

theorem Change.retire (h : Change c s s') (x : Nat) : Change c s (s'.retire x) :=
  (h.recordIf _ (by rfl)).record (by rfl)

/-- **What a step of a call changes.** -/
theorem Step.change (h : Step s c s' c') (hc : c.Ok s) : Change c s s' := by
  have hrefl := Change.refl c s
  cases h with
  | stay | contextsFull | findContext | refuseContext | cardsFull | passed | findCard | findOwner
  | refuseCard | ownerReleased | ownerLive | active | inactive | refuseUse => exact hrefl
  | lockContext | unlockContext | lockOwner | unlockOwner => exact hrefl.setContext rfl
  | lockOwned | lockCard | unlockCard => exact hrefl.lockCard _ _
  | drop => exact (Change.newContext _ s).record (by rfl)
  | make =>
    refine (Change.newContext _ s).setContext ?_
    rw [context_newContext]
  | publishContext =>
    refine ⟨fun _ he => List.mem_cons_of_mem _ he, Nat.le_refl _, Nat.le_refl _, fun q x hm => ?_,
      fun q y hm => ?_, fun q x hm => ?_, fun _ _ => .inl rfl, fun _ _ => rfl,
      fun _ _ => .inl rfl⟩
    · rcases List.mem_cons.1 hm with heq | hm
      · cases heq
        exact .inr rfl
      · exact .inl hm
    · rcases List.mem_cons.1 hm with heq | hm
      · cases heq
      · exact .inl hm
    · rcases List.mem_append.1 hm with hm | hm
      · exact .inl hm
      · cases List.mem_singleton.1 hm
        exact .inr hc.2.2
  | abandonContext => exact hrefl.retire _
  | inside hkeeps => exact hrefl.setContext hkeeps.released
  | connect _ hkeeps =>
    exact (hrefl.setContext hkeeps.released).newCard (Shared.cardCount_recordIf _ _ _) _
  | @mark h x hlive =>
    have hmarked : Change (.context h .releaseContext (.within x)) s { s with
        context := Function.update s.context x { s.context x with released := true } } := by
      refine { hrefl with released := fun q hq => ?_ }
      by_cases hqx : q = x
      · subst hqx
        exact .inr ⟨rfl, ⟨h, hc⟩, by simp⟩
      · exact .inl (by simp [Function.update_of_ne hqx])
    exact hmarked.recordIf _ (by rfl)
  | publishCard =>
    refine ⟨fun _ he => List.mem_cons_of_mem _ he, Nat.le_refl _, Nat.le_refl _, fun q x hm => ?_,
      fun q y hm => ?_, fun _ _ => .inl, fun _ _ => .inl rfl, fun _ _ => rfl,
      fun _ _ => .inl rfl⟩
    · rcases List.mem_cons.1 hm with heq | hm
      · cases heq
      · exact .inl hm
    · rcases List.mem_cons.1 hm with heq | hm
      · cases heq
        exact .inr rfl
      · exact .inl hm
  | abandonCard => exact hrefl.deactivate (.inr ⟨rfl, hc.2.1.unhanded⟩)
  | eraseContext =>
    exact { hrefl with registered := fun _ _ hm => .inl (List.mem_filter.1 hm).1 }
  | pass =>
    exact ((hrefl.deactivate (.inl ⟨rfl, (hc.2.2 _ List.mem_cons_self).2⟩)).record
      (by rfl)).lockCard _ _
  | free _ hreleased => exact hrefl.setContext hreleased
  | releaseNative => exact hrefl.retire _
  | use hkeeps => exact (hrefl.record (by rfl)).setContext hkeeps.released
  | close =>
    exact ((hrefl.record (by rfl)).deactivate (.inl ⟨rfl, _, hc.1⟩)).record (by rfl)
  | eraseCard => exact { hrefl with }

end

end Px4.Winscard
