import Px4.Winscard.Proof.Places

/-!
# What a call relies on stays

A step brings its call to a place where it may go on (`Step.ok`), and takes nothing from what the
other calls rely on (`Change.ok`): they hold other mutexes, and no two calls end one context.
-/

namespace Px4.Winscard

variable {s s' : Shared} {c c' d : Caller}

/-! ## The other calls -/

/-- Two calls hold different mutexes and end different contexts. -/
structure Apart (c d : Caller) : Prop where
  context : ∀ x, c.holdsContext = some x → d.holdsContext ≠ some x
  card : ∀ y, c.holdsCard = some y → d.holdsCard ≠ some y
  retires : ∀ x, c.retires = some x → d.retires ≠ some x

theorem holdsContext_of_making (hc : c.Ok s) {y : Nat} (h : c.making = some y) :
    c.holdsContext = some (s.card y).owner := by
  cases c with
  | establish place => cases h
  | card q call place => cases h
  | context q call place =>
    cases place with
    | publish x z protocol =>
      cases h
      rw [hc.2.1.owner]
      rfl
    | abandon x z =>
      cases h
      rw [hc.2.1.owner]
      rfl
    | _ => cases h

theorem Change.released_of_true (h : Change c s s') {x : Nat} (hx : x < s.contextCount)
    (hreleased : (s.context x).released = true) : (s'.context x).released = true := by
  rcases h.released x hx with heq | ⟨-, -, htrue⟩
  · rw [heq, hreleased]
  · exact htrue

theorem Change.inactive (h : Change c s s') {y : Nat} (hy : y < s.cardCount)
    (hinactive : (s.card y).active = false) : (s'.card y).active = false := by
  rcases h.active y hy with heq | ⟨hfalse, -⟩
  · rw [heq, hinactive]
  · exact hfalse

theorem Change.making (h : Change c s s') (ht : Tables s) (hc : c.Ok s) {x y : Nat} {q : Handle}
    (hq : .gaveContext q x ∈ s.log) (hm : s.Making x y) (hapart : c.holdsContext ≠ some x) :
    s'.Making x y := by
  have hnot : c.making ≠ some y := by
    intro hmaking
    rw [holdsContext_of_making hc hmaking, hm.owner] at hapart
    exact hapart rfl
  refine ⟨?_, Nat.lt_of_lt_of_le hm.made h.cardCount, ?_, ?_, fun q' hgave => ?_⟩
  · rcases h.released x (ht.gaveContext q x hq).2.1 with heq | ⟨hholds, -⟩
    · rw [heq, hm.live]
    · exact absurd hholds hapart
  · rw [h.owner y hm.made, hm.owner]
  · rcases h.active y hm.made with heq | ⟨-, ⟨-, q', hgave⟩ | ⟨hmaking, -⟩⟩
    · rw [heq, hm.active]
    · exact absurd hgave (hm.unhanded q')
    · exact absurd hmaking hnot
  · rcases h.gaveCard q' y hgave with hgave | hmaking
    · exact hm.unhanded q' hgave
    · exact hnot hmaking

theorem Change.erased (h : Change c s s') (ht : Tables s) {x : Nat} {q : Handle}
    (hq : .gaveContext q x ∈ s.log) (he : s.Erased x) : s'.Erased x := by
  refine ⟨h.released_of_true (ht.gaveContext q x hq).2.1 he.released, fun q' hmem => ?_⟩
  rcases h.registered q' x hmem with hmem | hnone
  · exact he.erased q' hmem
  · exact hnone q hq

theorem Change.ownedBy (h : Change c s s') (ht : Tables s) {x y : Nat} (ho : s.OwnedBy x y) :
    s'.OwnedBy x y := by
  obtain ⟨howner, q, hq⟩ := ho
  exact ⟨by rw [h.owner y (ht.gaveCard q y hq).2, howner], q, h.log _ hq⟩

theorem Change.heldOk (h : Change c s s') {y : Nat} (hy : y < s.cardCount) {call : CardCall}
    {held : Option Nat} (hheld : HeldOk s call y held) : HeldOk s' call y held := by
  unfold HeldOk at hheld ⊢
  rwa [h.owner y hy]

theorem Change.disconnectOk (h : Change c s s') {q : Handle} {call : CardCall} {answer : Answer}
    (hok : DisconnectOk s q call answer) : DisconnectOk s' q call answer := by
  intro hcall hresult
  obtain ⟨y, hy⟩ := hok hcall hresult
  exact ⟨y, h.log _ hy⟩

theorem Change.okEstablish (h : Change c s s') {place : EstablishPlace} (hd : place.Ok s)
    (hapart : Apart c (.establish place)) : place.Ok s' := by
  have hmade {x : Nat} (hx : x < s.contextCount ∧ (s.context x).released = false ∧
      ∀ q, .gaveContext q x ∉ s.log) (hretires : c.retires ≠ some x) :
      x < s'.contextCount ∧ (s'.context x).released = false ∧ ∀ q, .gaveContext q x ∉ s'.log := by
    refine ⟨Nat.lt_of_lt_of_le hx.1 h.contextCount, ?_, fun q hq => ?_⟩
    · rcases h.released x hx.1 with heq | ⟨-, ⟨q, hq⟩, -⟩
      · rw [heq, hx.2.1]
      · exact absurd hq (hx.2.2 q)
    · rcases h.gaveContext q x hq with hq | hretires'
      · exact hx.2.2 q hq
      · exact hretires hretires'
  cases place with
  | start | returned => trivial
  | publish x => exact hmade hd fun hx => hapart.retires x hx rfl
  | abandon x => exact hmade hd fun hx => hapart.retires x hx rfl

theorem Change.okContext (h : Change c s s') (ht : Tables s) (hc : c.Ok s) {q : Handle}
    {call : ContextCall} {place : ContextPlace} (hd : place.Ok s q call)
    (hapart : Apart c (.context q call place)) : place.Ok s' q call := by
  cases place with
  | find => trivial
  | lock x => exact h.log _ hd
  | within x => exact h.log _ hd
  | publish x y protocol =>
    exact ⟨h.log _ hd.1, h.making ht hc hd.1 hd.2.1 fun hx => hapart.context x hx rfl, hd.2.2⟩
  | abandon x y =>
    exact ⟨h.log _ hd.1, h.making ht hc hd.1 hd.2.1 fun hx => hapart.context x hx rfl, hd.2.2⟩
  | erase x => exact ⟨h.log _ hd.1, h.released_of_true (ht.gaveContext q x hd.1).2.1 hd.2⟩
  | lockCard x owned =>
    exact ⟨h.log _ hd.1, h.erased ht hd.1 hd.2.1, fun y hy => h.ownedBy ht (hd.2.2 y hy)⟩
  | pass x y owned =>
    exact ⟨h.log _ hd.1, h.erased ht hd.1 hd.2.1, fun z hz => h.ownedBy ht (hd.2.2 z hz)⟩
  | free x => exact ⟨h.log _ hd.1, h.erased ht hd.1 hd.2⟩
  | releaseNative x cleanup => exact ⟨h.log _ hd.1, h.erased ht hd.1 hd.2⟩
  | unlock x answer => exact ⟨h.log _ hd.1, fun hcall hresult => h.log _ (hd.2 hcall hresult)⟩
  | returned answer =>
    intro hcall hresult
    obtain ⟨x, hgave, hretired⟩ := hd hcall hresult
    exact ⟨x, h.log _ hgave, h.log _ hretired⟩

theorem Change.okCard (h : Change c s s') (ht : Tables s) {q : Handle} {call : CardCall}
    {place : CardPlace} (hd : place.Ok s q call) (hapart : Apart c (.card q call place)) :
    place.Ok s' q call := by
  have hmade {y : Nat} (hy : .gaveCard q y ∈ s.log) : y < s.cardCount := (ht.gaveCard q y hy).2
  cases place with
  | find => trivial
  | lockOwner y => exact ⟨h.log _ hd.1, hd.2⟩
  | checkOwner y x => exact ⟨h.log _ hd.1, by rw [h.owner y (hmade hd.1), hd.2.1], hd.2.2⟩
  | lock y held => exact ⟨h.log _ hd.1, h.heldOk (hmade hd.1) hd.2⟩
  | check y held => exact ⟨h.log _ hd.1, h.heldOk (hmade hd.1) hd.2⟩
  | use y held =>
    refine ⟨h.log _ hd.1, h.heldOk (hmade hd.1) hd.2.1, ?_⟩
    rcases h.active y (hmade hd.1) with heq | ⟨-, ⟨hholds, -⟩ | ⟨-, hnone⟩⟩
    · rw [heq, hd.2.2]
    · exact absurd rfl (hapart.card y hholds)
    · exact absurd hd.1 (hnone q)
  | erase y result =>
    exact ⟨h.log _ hd.1, h.inactive (hmade hd.1) hd.2.1, h.log _ hd.2.2⟩
  | unlock y held answer =>
    exact ⟨h.log _ hd.1, h.heldOk (hmade hd.1) hd.2.1, h.disconnectOk hd.2.2⟩
  | unlockOwner x answer =>
    exact ⟨Nat.lt_of_lt_of_le hd.1 h.contextCount, h.disconnectOk hd.2⟩
  | returned answer => exact h.disconnectOk hd

/-- **What another call relies on stays.** -/
theorem Change.ok (h : Change c s s') (ht : Tables s) (hc : c.Ok s) (hd : d.Ok s)
    (hapart : Apart c d) : d.Ok s' := by
  cases d with
  | establish place => exact h.okEstablish hd hapart
  | context q call place => exact h.okContext ht hc hd hapart
  | card q call place => exact h.okCard ht hd hapart

/-! ## The call itself -/

/-- The context whose mutex a call through a card handle holds has been made. -/
theorem Tables.owner_lt (ht : Tables s) {y : Nat} {q : Handle} (hq : .gaveCard q y ∈ s.log) :
    (s.card y).owner < s.contextCount := by
  obtain ⟨q', hq'⟩ := ht.owner y (ht.gaveCard q y hq).2
  exact (ht.gaveContext q' _ hq').2.1

/-- A context that is new. -/
theorem Tables.ok_make (ht : Tables s) (native : Nat) :
    (EstablishPlace.publish s.contextCount).Ok
      (s.newContext.1.setContext s.contextCount { native }) := by
  refine ⟨?_, ?_, fun q hq => ?_⟩
  · simp [Shared.setContext, Shared.newContext]
  · simp [Shared.setContext]
  · have hold : .gaveContext q s.contextCount ∈ s.log := by
      simpa [Shared.setContext, Shared.newContext] using hq
    exact absurd (ht.gaveContext q _ hold).2.1 (Nat.lt_irrefl _)

/-- A card that is new. -/
theorem Tables.ok_connect (ht : Tables s) {x : Nat} {k : Context} {card : Card}
    (hlive : (s.context x).released = false) (hkeeps : (s.context x).Keeps k)
    (howner : card.owner = x) (hactive : card.active = true) :
    ((s.setContext x k).newCard card).1.Making x s.cardCount := by
  refine ⟨?_, ?_, ?_, ?_, fun q hq => ?_⟩
  · simp [Shared.newCard, Shared.setContext, hkeeps.released, hlive]
  · simp [Shared.newCard]
  · simp [Shared.newCard, howner]
  · simp [Shared.newCard, hactive]
  · have hold : .gaveCard q s.cardCount ∈ s.log := by
      simpa [Shared.newCard, Shared.setContext] using hq
    exact absurd (ht.gaveCard q _ hold).2 (Nat.lt_irrefl _)

/-- A context that is taken out of the registry with its cards. -/
theorem Tables.ok_erase (ht : Tables s) {q : Handle} {x : Nat} (hq : .gaveContext q x ∈ s.log)
    (hreleased : (s.context x).released = true) :
    (s.eraseContext q x).1.Erased x ∧
      ∀ y ∈ (s.eraseContext q x).2, (s.eraseContext q x).1.OwnedBy x y := by
  refine ⟨⟨hreleased, fun q' hmem => ?_⟩, fun y hy => ?_⟩
  · obtain ⟨hmem, hne⟩ := List.mem_filter.1 hmem
    rw [ht.handleOf q' q x (ht.contexts q' x hmem) hq] at hne
    simp at hne
  · obtain ⟨entry, hmem, rfl⟩ := List.mem_map.1 hy
    obtain ⟨hmem, howner⟩ := List.mem_filter.1 hmem
    exact ⟨beq_iff_eq.1 howner, entry.1, (ht.cards _ _ hmem).1⟩

/-- **A step brings its call to a place where it may go on.** -/
theorem Step.ok (h : Step s c s' c') (ht : Tables s) (hc : c.Ok s) : c'.Ok s' := by
  have hchange := h.change hc
  cases h with
  | stay => exact hc
  | drop | publishContext | abandonContext => trivial
  | make => exact ht.ok_make _
  | contextsFull => exact hc
  | findContext hmem => exact ht.contexts _ _ hmem
  | refuseContext _ hfailed => exact fun _ hresult => absurd hresult hfailed
  | lockContext => exact hchange.log _ hc
  | inside _ _ _ hresult => exact ⟨hchange.log _ hc, fun hcall hok => absurd hok (hresult hcall)⟩
  | connect hlive hkeeps howner hactive _ hcall =>
    exact ⟨hchange.log _ hc, ht.ok_connect hlive hkeeps howner hactive, hcall⟩
  | mark => exact ⟨hchange.log _ hc, by simp [Shared.setContext]⟩
  | publishCard | abandonCard =>
    exact ⟨hchange.log _ hc.1, fun hcall => absurd hcall hc.2.2⟩
  | cardsFull => exact hc
  | eraseContext => exact ⟨hc.1, ht.ok_erase hc.1 hc.2⟩
  | passed => exact ⟨hc.1, hc.2.1⟩
  | lockOwned =>
    exact ⟨hchange.log _ hc.1, hchange.erased ht hc.1 hc.2.1,
      fun z hz => hchange.ownedBy ht (hc.2.2 z hz)⟩
  | pass =>
    exact ⟨hchange.log _ hc.1, hchange.erased ht hc.1 hc.2.1,
      fun z hz => hchange.ownedBy ht (hc.2.2 z (List.mem_cons_of_mem _ hz))⟩
  | free => exact ⟨hchange.log _ hc.1, hchange.erased ht hc.1 hc.2⟩
  | releaseNative => exact ⟨hchange.log _ hc.1, fun _ _ => List.mem_cons_self⟩
  | unlockContext =>
    exact fun hcall hok => ⟨_, hchange.log _ hc.1, hchange.log _ (hc.2 hcall hok)⟩
  | findCard hmem => exact ⟨(ht.cards _ _ hmem).1, .inl rfl⟩
  | findOwner hmem => exact ⟨(ht.cards _ _ hmem).1, _, rfl⟩
  | refuseCard hfailed => exact fun _ hresult => absurd hresult hfailed
  | lockOwner => exact ⟨hchange.log _ hc.1, by simp [Shared.lockContext, Shared.setContext], hc.2⟩
  | ownerReleased hfailed =>
    refine ⟨?_, fun _ hresult => absurd hresult hfailed⟩
    rw [← hc.2.1]
    exact ht.owner_lt hc.1
  | ownerLive => exact ⟨hc.1, .inr ⟨by rw [hc.2.1], hc.2.2⟩⟩
  | lockCard => exact ⟨hchange.log _ hc.1, hchange.heldOk (ht.gaveCard _ _ hc.1).2 hc.2⟩
  | active hactive => exact ⟨hc.1, hc.2, hactive⟩
  | inactive hfailed => exact ⟨hc.1, hc.2, fun _ hresult => absurd hresult hfailed⟩
  | refuseUse hfailed =>
    exact ⟨hc.1, hc.2.1, fun hcall hresult => absurd hresult (hfailed hcall)⟩
  | use _ hfailed =>
    exact ⟨hchange.log _ hc.1, hchange.heldOk (ht.gaveCard _ _ hc.1).2 hc.2.1,
      fun hcall hresult => absurd hresult (hfailed hcall)⟩
  | close =>
    exact ⟨hchange.log _ hc.1, by simp [Shared.deactivate, Shared.setCard, Shared.record],
      List.mem_cons_self⟩
  | eraseCard => exact ⟨hchange.log _ hc.1, .inl rfl, fun _ _ => ⟨_, hchange.log _ hc.2.2⟩⟩
  | @unlockCard q call y held answer =>
    have hdisconnect := hchange.disconnectOk hc.2.2
    cases held with
    | none => exact hdisconnect
    | some x =>
      refine ⟨Nat.lt_of_lt_of_le ?_ hchange.contextCount, hdisconnect⟩
      obtain hnone | ⟨hsome, -⟩ := hc.2.1
      · cases hnone
      · rw [Option.some.inj hsome]
        exact ht.owner_lt hc.1
  | unlockOwner => exact hchange.disconnectOk hc.2

end Px4.Winscard
