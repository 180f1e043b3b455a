import Px4.Winscard.Proof.Rely

/-!
# The tables of the proxy

Every step keeps `Tables` (`Step.tables`): every entry of the registry has been given its handle,
no handle is given twice, and a card in the registry has its context there.
-/

namespace Px4.Winscard

variable {s s' : Shared} {c c' : Caller}

/-- What is said of a key once is said of a new key once. -/
theorem unique_cons {α β : Type} {f : α → β → Event} {log : List Event} {a : α} {b : β}
    (hinj : ∀ {p q y z}, f p y = f q z → p = q ∧ y = z) (hnew : ∀ z, f a z ∉ log)
    (hold : ∀ p y z, f p y ∈ log → f p z ∈ log → y = z) (p : α) (y z : β)
    (hy : f p y ∈ f a b :: log) (hz : f p z ∈ f a b :: log) : y = z := by
  rcases List.mem_cons.1 hy with heq | hy <;> rcases List.mem_cons.1 hz with heq' | hz
  · rw [(hinj heq).2, (hinj heq').2]
  · rw [(hinj heq).1] at hz
    exact absurd hz (hnew z)
  · rw [(hinj heq').1] at hy
    exact absurd hy (hnew y)
  · exact hold p y z hy hz

namespace Tables

theorem record (ht : Tables s) {e : Event} (he : e.isHandle = false) : Tables (s.record e) := by
  have hcontext {q : Handle} {x : Nat} (h : .gaveContext q x ∈ (s.record e).log) :
      .gaveContext q x ∈ s.log := by
    rcases List.mem_cons.1 h with rfl | h
    · cases he
    · exact h
  have hcard {q : Handle} {y : Nat} (h : .gaveCard q y ∈ (s.record e).log) :
      .gaveCard q y ∈ s.log := by
    rcases List.mem_cons.1 h with rfl | h
    · cases he
    · exact h
  exact {
    next := ht.next
    room := ht.room
    freshContext := ht.freshContext
    freshCard := ht.freshCard
    contexts := fun q x h => List.mem_cons_of_mem _ (ht.contexts q x h)
    cards := fun q y h => ⟨List.mem_cons_of_mem _ (ht.cards q y h).1, (ht.cards q y h).2⟩
    gaveContext := fun q x h => ht.gaveContext q x (hcontext h)
    gaveCard := fun q y h => ht.gaveCard q y (hcard h)
    handleOf := fun q q' x h h' => ht.handleOf q q' x (hcontext h) (hcontext h')
    contextOf := fun q x x' h h' => ht.contextOf q x x' (hcontext h) (hcontext h')
    cardOf := fun q y y' h h' => ht.cardOf q y y' (hcard h) (hcard h')
    owner := fun y hy => (ht.owner y hy).imp fun _ h => List.mem_cons_of_mem _ h }

theorem recordIf (ht : Tables s) (p : Bool) {e : Event} (he : e.isHandle = false) :
    Tables (s.recordIf p e) := by
  cases p with
  | false => exact ht
  | true => exact ht.record he

theorem setContext (ht : Tables s) {x : Nat} (hx : x < s.contextCount) {k : Context}
    (hreleased : (s.context x).released = true → k.released = true) :
    Tables (s.setContext x k) := by
  have hset : Tables { s with context := Function.update s.context x k } := by
    refine { ht with
      freshContext := fun q hq => ?_
      gaveContext := fun q z h => ?_ }
    · dsimp only at hq ⊢
      rw [Function.update_of_ne (by omega), ht.freshContext q hq]
    · obtain ⟨hq, hz, hregistered⟩ := ht.gaveContext q z h
      refine ⟨hq, hz, hregistered.imp_left fun htrue => ?_⟩
      by_cases hzx : z = x
      · subst hzx
        simpa using hreleased htrue
      · simpa [Function.update_of_ne hzx] using htrue
  exact hset.recordIf _ (by rfl)

theorem setCard (ht : Tables s) {y : Nat} (hy : y < s.cardCount) {k : Card}
    (howner : k.owner = (s.card y).owner) : Tables (s.setCard y k) := by
  have hsame (q : Nat) : ((s.setCard y k).card q).owner = (s.card q).owner := by
    by_cases hqy : q = y
    · subst hqy
      simpa [Shared.setCard] using howner
    · simp [Shared.setCard, Function.update_of_ne hqy]
  refine { ht with
    freshCard := fun q hq => ?_
    cards := fun q z h => ?_
    owner := fun q hq => ?_ }
  · change Function.update s.card y k q = _
    change s.cardCount ≤ q at hq
    rw [Function.update_of_ne (by omega), ht.freshCard q hq]
  · rw [hsame z]
    exact ht.cards q z h
  · rw [hsame q]
    exact ht.owner q hq

theorem deactivate (ht : Tables s) {y : Nat} (hy : y < s.cardCount) : Tables (s.deactivate y) := by
  have hset : Tables (s.setCard y { s.card y with active := false, hasLocal := false }) :=
    ht.setCard hy rfl
  exact hset.recordIf _ (by rfl)

theorem retire (ht : Tables s) (x : Nat) : Tables (s.retire x) :=
  (ht.recordIf _ (by rfl)).record (by rfl)

theorem newContext (ht : Tables s) : Tables s.newContext.1 := by
  refine { ht with
    freshContext := fun q hq => ?_
    gaveContext := fun q x h => ?_ }
  · by_cases hqx : q = s.contextCount
    · subst hqx
      exact Function.update_self _ _ _
    · exact (Function.update_of_ne hqx _ _).trans
        (ht.freshContext q (Nat.le_of_succ_le hq))
  · obtain ⟨hq, hx, hregistered⟩ := ht.gaveContext q x h
    refine ⟨hq, Nat.lt_succ_of_lt hx, ?_⟩
    simpa [Shared.newContext, Function.update_of_ne (Nat.ne_of_lt hx)] using hregistered

theorem newCard (ht : Tables s) {card : Card} {q : Handle}
    (howner : .gaveContext q card.owner ∈ s.log) : Tables (s.newCard card).1 := by
  have hmade : Tables { s with
      card := Function.update s.card s.cardCount card, cardCount := s.cardCount + 1 } := by
    refine { ht with
      freshCard := fun z hz => ?_
      cards := fun q z h => ?_
      gaveCard := fun q z h => ?_
      owner := fun z hz => ?_ }
    · dsimp only at hz ⊢
      rw [Function.update_of_ne (by omega), ht.freshCard z (by omega)]
    · have hlt := (ht.gaveCard q z (ht.cards q z h).1).2
      simpa [Function.update_of_ne (Nat.ne_of_lt hlt)] using ht.cards q z h
    · exact ⟨(ht.gaveCard q z h).1, Nat.lt_succ_of_lt (ht.gaveCard q z h).2⟩
    · by_cases hzy : z = s.cardCount
      · subst hzy
        exact ⟨q, by simpa using howner⟩
      · dsimp only at hz ⊢
        rw [Function.update_of_ne hzy]
        exact ht.owner z (by omega)
  exact hmade.recordIf _ (by rfl)

theorem publishContext (ht : Tables s) {x : Nat} (hx : x < s.contextCount)
    (hnew : ∀ q, .gaveContext q x ∉ s.log) :
    Tables ({ s with next := s.next + 1, contexts := s.contexts ++ [(s.next, x)] }.record
      (.gaveContext s.next x)) where
  next := Nat.le_succ_of_le ht.next
  room := ht.room
  freshContext := ht.freshContext
  freshCard := ht.freshCard
  contexts q z h := by
    rcases List.mem_append.1 h with h | h
    · exact List.mem_cons_of_mem _ (ht.contexts q z h)
    · cases List.mem_singleton.1 h
      exact List.mem_cons_self
  cards q y h := by
    obtain ⟨hgave, q', hregistered⟩ := ht.cards q y h
    exact ⟨List.mem_cons_of_mem _ hgave, q', List.mem_append_left _ hregistered⟩
  gaveContext q z h := by
    rcases List.mem_cons.1 h with heq | h
    · cases heq
      exact ⟨Nat.lt_succ_self _, hx, .inr (List.mem_append_right _ List.mem_cons_self)⟩
    · obtain ⟨hq, hz, hregistered⟩ := ht.gaveContext q z h
      exact ⟨Nat.lt_succ_of_lt hq, hz, hregistered.imp_right (List.mem_append_left _)⟩
  gaveCard q y h := by
    obtain ⟨hq, hy⟩ := ht.gaveCard q y (List.mem_of_ne_of_mem Event.noConfusion h)
    exact ⟨Nat.lt_succ_of_lt hq, hy⟩
  handleOf q q' z := unique_cons (f := fun z q => .gaveContext q z)
    (fun heq => (Event.gaveContext.inj heq).symm) hnew (fun z q q' => ht.handleOf q q' z) z q q'
  contextOf := unique_cons Event.gaveContext.inj
    (fun z h => Nat.lt_irrefl _ (ht.gaveContext _ z h).1) ht.contextOf
  cardOf q y y' h h' := ht.cardOf q y y' (List.mem_of_ne_of_mem Event.noConfusion h)
    (List.mem_of_ne_of_mem Event.noConfusion h')
  owner y hy := (ht.owner y hy).imp fun _ h => List.mem_cons_of_mem _ h

theorem publishCard (ht : Tables s) {x y : Nat} {p : Handle} (hx : .gaveContext p x ∈ s.log)
    (hmaking : s.Making x y) (hroom : s.cards.length < kMaxCards) :
    Tables ({ s with next := s.next + 1, cards := s.cards ++ [(s.next, y)] }.record
      (.gaveCard s.next y)) where
  next := Nat.le_succ_of_le ht.next
  room := by
    change (s.cards ++ [(s.next, y)]).length ≤ kMaxCards
    rw [List.length_append]
    exact hroom
  freshContext := ht.freshContext
  freshCard := ht.freshCard
  contexts q z h := List.mem_cons_of_mem _ (ht.contexts q z h)
  cards q z h := by
    rcases List.mem_append.1 h with h | h
    · exact ⟨List.mem_cons_of_mem _ (ht.cards q z h).1, (ht.cards q z h).2⟩
    · cases List.mem_singleton.1 h
      refine ⟨List.mem_cons_self, p, ?_⟩
      obtain ⟨-, -, hreleased | hregistered⟩ := ht.gaveContext p x hx
      · rw [hmaking.live] at hreleased
        cases hreleased
      · change (p, (s.card y).owner) ∈ s.contexts
        rw [hmaking.owner]
        exact hregistered
  gaveContext q z h := by
    obtain ⟨hq, hz⟩ := ht.gaveContext q z (List.mem_of_ne_of_mem Event.noConfusion h)
    exact ⟨Nat.lt_succ_of_lt hq, hz⟩
  gaveCard q z h := by
    rcases List.mem_cons.1 h with heq | h
    · cases heq
      exact ⟨Nat.lt_succ_self _, hmaking.made⟩
    · exact ⟨Nat.lt_succ_of_lt (ht.gaveCard q z h).1, (ht.gaveCard q z h).2⟩
  handleOf q q' z h h' := ht.handleOf q q' z (List.mem_of_ne_of_mem Event.noConfusion h)
    (List.mem_of_ne_of_mem Event.noConfusion h')
  contextOf q z z' h h' := ht.contextOf q z z' (List.mem_of_ne_of_mem Event.noConfusion h)
    (List.mem_of_ne_of_mem Event.noConfusion h')
  cardOf := unique_cons Event.gaveCard.inj
    (fun z h => Nat.lt_irrefl _ (ht.gaveCard _ z h).1) ht.cardOf
  owner z hz := (ht.owner z hz).imp fun _ h => List.mem_cons_of_mem _ h

theorem eraseContext (ht : Tables s) {p : Handle} {x : Nat} (hx : .gaveContext p x ∈ s.log)
    (hreleased : (s.context x).released = true) : Tables (s.eraseContext p x).1 := by
  refine { ht with
    room := (List.length_filter_le _ _).trans ht.room
    contexts := fun q z h => ht.contexts q z (List.mem_filter.1 h).1
    cards := fun q y h => ?_
    gaveContext := fun q z h => ?_ }
  · obtain ⟨hmem, howner⟩ := List.mem_filter.1 h
    obtain ⟨hgave, q', hregistered⟩ := ht.cards q y hmem
    refine ⟨hgave, q', List.mem_filter.2 ⟨hregistered, ?_⟩⟩
    rw [bne_iff_ne] at howner ⊢
    intro (heq : q' = p)
    subst heq
    exact howner (ht.contextOf q' _ x (ht.contexts q' _ hregistered) hx)
  · obtain ⟨hq, hz, hregistered⟩ := ht.gaveContext q z h
    refine ⟨hq, hz, ?_⟩
    rcases hregistered with htrue | hregistered
    · exact .inl htrue
    by_cases hqp : q = p
    · subst hqp
      rw [ht.contextOf q z x h hx]
      exact .inl hreleased
    · exact .inr (List.mem_filter.2 ⟨hregistered, by simpa using hqp⟩)

theorem eraseCard (ht : Tables s) (p : Handle) : Tables (s.eraseCard p) :=
  { ht with
    room := (List.length_filter_le _ _).trans ht.room
    cards := fun q y h => ht.cards q y (List.mem_filter.1 h).1 }

end Tables

/-- **Every step keeps the tables.** -/
theorem Step.tables (h : Step s c s' c') (ht : Tables s) (hc : c.Ok s) : Tables s' := by
  cases h with
  | stay | contextsFull | findContext | refuseContext | cardsFull | passed | findCard | findOwner
  | refuseCard | ownerReleased | ownerLive | active | inactive | refuseUse => exact ht
  | drop => exact ht.newContext.record (by rfl)
  | make =>
    refine ht.newContext.setContext (Nat.lt_succ_self _) fun htrue => ?_
    rw [context_newContext] at htrue
    cases htrue
  | publishContext => exact ht.publishContext hc.1 hc.2.2
  | abandonContext => exact ht.retire _
  | lockContext => exact ht.setContext (ht.gaveContext _ _ hc).2.1 id
  | inside hkeeps =>
    exact ht.setContext (ht.gaveContext _ _ hc).2.1 fun htrue => hkeeps.released.trans htrue
  | @connect h call x protocol k card hlive hkeeps howner =>
    have hset := ht.setContext (ht.gaveContext _ _ hc).2.1 fun htrue => hkeeps.released.trans htrue
    have hgave : .gaveContext h x ∈ s.log := hc
    refine hset.newCard (q := h) ?_
    rw [howner]
    simpa [Shared.setContext] using hgave
  | mark => exact ht.setContext (ht.gaveContext _ _ hc).2.1 fun _ => rfl
  | publishCard _ _ hroom => exact ht.publishCard hc.1 hc.2.1 hroom
  | abandonCard => exact ht.deactivate hc.2.1.made
  | eraseContext => exact ht.eraseContext hc.1 hc.2
  | lockOwned =>
    obtain ⟨-, q, hq⟩ := hc.2.2 _ List.mem_cons_self
    exact ht.setCard (ht.gaveCard q _ hq).2 rfl
  | pass =>
    obtain ⟨-, q, hq⟩ := hc.2.2 _ List.mem_cons_self
    have hmade := (ht.gaveCard q _ hq).2
    refine ((ht.deactivate hmade).record (by rfl)).setCard ?_ rfl
    simpa [Shared.deactivate, Shared.record, Shared.setCard] using hmade
  | free _ hreleased =>
    exact ht.setContext (ht.gaveContext _ _ hc.1).2.1 fun htrue => hreleased.trans htrue
  | releaseNative => exact ht.retire _
  | unlockContext => exact ht.setContext (ht.gaveContext _ _ hc.1).2.1 id
  | lockOwner => exact ht.setContext (ht.owner_lt hc.1) id
  | lockCard => exact ht.setCard (ht.gaveCard _ _ hc.1).2 rfl
  | use hkeeps =>
    exact (ht.record (by rfl)).setContext (ht.owner_lt hc.1) fun htrue =>
      hkeeps.released.trans htrue
  | close =>
    exact ((ht.record (by rfl)).deactivate (ht.gaveCard _ _ hc.1).2).record (by rfl)
  | eraseCard => exact ht.eraseCard _
  | unlockCard => exact ht.setCard (ht.gaveCard _ _ hc.1).2 rfl
  | unlockOwner => exact ht.setContext hc.1 id

theorem tables_init : Tables {} where
  next := Nat.le_refl _
  room := Nat.zero_le _
  freshContext _ _ := rfl
  freshCard _ _ := rfl
  contexts := nofun
  cards := nofun
  gaveContext := nofun
  gaveCard := nofun
  handleOf := nofun
  contextOf := nofun
  cardOf := nofun
  owner := nofun

end Px4.Winscard
