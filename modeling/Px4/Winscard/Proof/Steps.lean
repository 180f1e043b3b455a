import Px4.Winscard.Proof.Memory

/-!
# What a step of a call can do

`Step max s c s' c'`: the call `c` comes from `s` to `s'` and is then `c'`. Every step of a call is
one of these (`advance_step`), and the invariants of the proxy are derived from them alone.
-/

namespace Px4.Winscard

/-! ## The shared state -/

namespace Shared

variable (s : Shared) (p : Bool) (e : Event) (x y : Nat) (c : Context) (k : Card)

@[simp] theorem mem_recordIf {e' : Event} :
    e' ∈ (s.recordIf p e).log ↔ p = true ∧ e' = e ∨ e' ∈ s.log := by
  cases p <;> simp [recordIf, record]

@[simp] theorem contexts_recordIf : (s.recordIf p e).contexts = s.contexts := by cases p <;> rfl

@[simp] theorem cards_recordIf : (s.recordIf p e).cards = s.cards := by cases p <;> rfl

@[simp] theorem next_recordIf : (s.recordIf p e).next = s.next := by cases p <;> rfl

@[simp] theorem context_recordIf : (s.recordIf p e).context = s.context := by cases p <;> rfl

@[simp] theorem contextCount_recordIf : (s.recordIf p e).contextCount = s.contextCount := by
  cases p <;> rfl

@[simp] theorem card_recordIf : (s.recordIf p e).card = s.card := by cases p <;> rfl

@[simp] theorem cardCount_recordIf : (s.recordIf p e).cardCount = s.cardCount := by cases p <;> rfl

@[simp] theorem context_newCard : (s.newCard k).1.context = s.context := context_recordIf _ _ _

@[simp] theorem context_deactivate : (s.deactivate y).context = s.context := context_recordIf _ _ _

@[simp] theorem context_retire : (s.retire x).context = s.context := context_recordIf _ _ _

@[simp] theorem context_setContext :
    (s.setContext x c).context = Function.update s.context x c := context_recordIf _ _ _

@[simp] theorem card_setContext : (s.setContext x c).card = s.card := card_recordIf _ _ _

@[simp] theorem cardCount_setContext : (s.setContext x c).cardCount = s.cardCount :=
  cardCount_recordIf _ _ _

@[simp] theorem card_retire : (s.retire x).card = s.card := card_recordIf _ _ _

/-- A context that does not change. -/
theorem setContext_self : s.setContext x (s.context x) = s := by
  unfold setContext
  rw [Function.update_eq_self]
  cases hn : (s.context x).native == 0 && (s.context x).native != 0 with
  | false => rfl
  | true => simp at hn

end Shared

/-! ## The steps -/

/-- What a step of a call can do. -/
inductive Step (s : Shared) : Caller → Shared → Caller → Prop
  | stay (c : Caller) : Step s c s c
  -- `SCardEstablishContext`
  | drop {answer : Answer} : answer.handle = 0 →
      Step s (.establish .start) (s.newContext.1.record (.retired s.contextCount))
        (.establish (.returned answer))
  | make {native : Nat} :
      Step s (.establish .start) (s.newContext.1.setContext s.contextCount { native })
        (.establish (.publish s.contextCount))
  | publishContext {x : Nat} {answer : Answer} : answer.handle = s.next → s.next ≠ 0 →
      Step s (.establish (.publish x))
        ({ s with next := s.next + 1, contexts := s.contexts ++ [(s.next, x)] }.record
          (.gaveContext s.next x)) (.establish (.returned answer))
  | contextsFull {x : Nat} : Step s (.establish (.publish x)) s (.establish (.abandon x))
  | abandonContext {x : Nat} {answer : Answer} : answer.handle = 0 →
      Step s (.establish (.abandon x)) (s.retire x) (.establish (.returned answer))
  -- calls through a context handle
  | findContext {h : Handle} {call : ContextCall} {x : Nat} : (h, x) ∈ s.contexts →
      Step s (.context h call .find) s (.context h call (.lock x))
  | refuseContext {h : Handle} {call : ContextCall} {answer : Answer} : answer.handle = 0 →
      answer.result ≠ .success →
      Step s (.context h call .find) s (.context h call (.returned answer))
  | lockContext {h : Handle} {call : ContextCall} {x : Nat} : (s.context x).locked = false →
      Step s (.context h call (.lock x)) (s.lockContext x true) (.context h call (.within x))
  | inside {h : Handle} {call : ContextCall} {x : Nat} {c : Context} {answer : Answer} :
      (s.context x).Keeps c → ((s.context x).released = true → c = s.context x) →
      answer.handle = 0 → (call = .releaseContext → answer.result ≠ .success) →
      Step s (.context h call (.within x)) (s.setContext x c) (.context h call (.unlock x answer))
  | connect {h : Handle} {call : ContextCall} {x protocol : Nat} {c : Context} {k : Card} :
      (s.context x).released = false → (s.context x).Keeps c →
      k.owner = x → k.active = true → k.locked = false → call ≠ .releaseContext →
      Step s (.context h call (.within x)) ((s.setContext x c).newCard k).1
        (.context h call (.publish x s.cardCount protocol))
  | mark {h : Handle} {x : Nat} : (s.context x).released = false →
      Step s (.context h .releaseContext (.within x))
        (s.setContext x { s.context x with released := true })
        (.context h .releaseContext (.erase x))
  | publishCard {h : Handle} {call : ContextCall} {x y protocol : Nat} {answer : Answer} :
      answer.handle = s.next → s.next ≠ 0 → s.cards.length < kMaxCards →
      Step s (.context h call (.publish x y protocol))
        ({ s with next := s.next + 1, cards := s.cards ++ [(s.next, y)] }.record
          (.gaveCard s.next y)) (.context h call (.unlock x answer))
  | cardsFull {h : Handle} {call : ContextCall} {x y protocol : Nat} :
      Step s (.context h call (.publish x y protocol)) s (.context h call (.abandon x y))
  | abandonCard {h : Handle} {call : ContextCall} {x y : Nat} {answer : Answer} :
      answer.handle = 0 →
      Step s (.context h call (.abandon x y)) (s.deactivate y) (.context h call (.unlock x answer))
  | eraseContext {h : Handle} {call : ContextCall} {x : Nat} :
      Step s (.context h call (.erase x)) (s.eraseContext h x).1
        (.context h call (.lockCard x (s.eraseContext h x).2))
  | passed {h : Handle} {call : ContextCall} {x : Nat} :
      Step s (.context h call (.lockCard x [])) s (.context h call (.free x))
  | lockOwned {h : Handle} {call : ContextCall} {x y : Nat} {owned : List Nat} :
      (s.card y).locked = false →
      Step s (.context h call (.lockCard x (y :: owned))) (s.lockCard y true)
        (.context h call (.pass x y owned))
  | pass {h : Handle} {call : ContextCall} {x y : Nat} {owned : List Nat} :
      Step s (.context h call (.pass x y owned))
        (((s.deactivate y).record (.passed y)).lockCard y false)
        (.context h call (.lockCard x owned))
  | free {h : Handle} {call : ContextCall} {x : Nat} {c : Context} {cleanup : Scard} :
      c.locked = (s.context x).locked → c.released = (s.context x).released →
      c.native = (s.context x).native →
      Step s (.context h call (.free x)) (s.setContext x c)
        (.context h call (.releaseNative x cleanup))
  | releaseNative {h : Handle} {call : ContextCall} {x : Nat} {cleanup : Scard} {answer : Answer} :
      answer.handle = 0 →
      Step s (.context h call (.releaseNative x cleanup)) (s.retire x)
        (.context h call (.unlock x answer))
  | unlockContext {h : Handle} {call : ContextCall} {x : Nat} {answer : Answer} :
      Step s (.context h call (.unlock x answer)) (s.lockContext x false)
        (.context h call (.returned answer))
  -- calls through a card handle
  | findCard {h : Handle} {call : CardCall} {y : Nat} : (h, y) ∈ s.cards →
      Step s (.card h call .find) s (.card h call (.lock y none))
  | findOwner {h : Handle} {args : StatusArgs} {y : Nat} : (h, y) ∈ s.cards →
      Step s (.card h (.status args) .find) s (.card h (.status args) (.lockOwner y))
  | refuseCard {h : Handle} {call : CardCall} {answer : Answer} : answer.result ≠ .success →
      Step s (.card h call .find) s (.card h call (.returned answer))
  | lockOwner {h : Handle} {call : CardCall} {y : Nat} :
      (s.context (s.card y).owner).locked = false →
      Step s (.card h call (.lockOwner y)) (s.lockContext (s.card y).owner true)
        (.card h call (.checkOwner y (s.card y).owner))
  | ownerReleased {h : Handle} {call : CardCall} {x y : Nat} {answer : Answer} :
      answer.result ≠ .success →
      Step s (.card h call (.checkOwner y x)) s (.card h call (.unlockOwner x answer))
  | ownerLive {h : Handle} {call : CardCall} {x y : Nat} :
      Step s (.card h call (.checkOwner y x)) s (.card h call (.lock y (some x)))
  | lockCard {h : Handle} {call : CardCall} {y : Nat} {held : Option Nat} :
      (s.card y).locked = false →
      Step s (.card h call (.lock y held)) (s.lockCard y true) (.card h call (.check y held))
  | active {h : Handle} {call : CardCall} {y : Nat} {held : Option Nat} :
      (s.card y).active = true →
      Step s (.card h call (.check y held)) s (.card h call (.use y held))
  | inactive {h : Handle} {call : CardCall} {y : Nat} {held : Option Nat} {answer : Answer} :
      answer.result ≠ .success →
      Step s (.card h call (.check y held)) s (.card h call (.unlock y held answer))
  | refuseUse {h : Handle} {call : CardCall} {y : Nat} {held : Option Nat} {answer : Answer} :
      ((∃ disposition, call = .disconnect disposition) → answer.result ≠ .success) →
      Step s (.card h call (.use y held)) s (.card h call (.unlock y held answer))
  | use {h : Handle} {call : CardCall} {y : Nat} {held : Option Nat} {c : Context}
      {answer : Answer} :
      (s.context (s.card y).owner).Fills c →
      ((∃ disposition, call = .disconnect disposition) → answer.result ≠ .success) →
      Step s (.card h call (.use y held))
        ((s.record (.reached h y)).setContext (s.card y).owner c)
        (.card h call (.unlock y held answer))
  | close {h : Handle} {disposition : Disposition} {y : Nat} {held : Option Nat} {result : Scard} :
      Step s (.card h (.disconnect disposition) (.use y held))
        (((s.record (.reached h y)).deactivate y).record (.disconnected h y))
        (.card h (.disconnect disposition) (.erase y result))
  | eraseCard {h : Handle} {call : CardCall} {y : Nat} {result : Scard} {answer : Answer} :
      Step s (.card h call (.erase y result)) (s.eraseCard h) (.card h call (.unlock y none answer))
  | unlockCard {h : Handle} {call : CardCall} {y : Nat} {held : Option Nat} {answer : Answer} :
      Step s (.card h call (.unlock y held answer)) (s.lockCard y false)
        (.card h call (match held with
          | none => .returned answer
          | some x => .unlockOwner x answer))
  | unlockOwner {h : Handle} {call : CardCall} {x : Nat} {answer : Answer} :
      Step s (.card h call (.unlockOwner x answer)) (s.lockContext x false)
        (.card h call (.returned answer))

/-! ## Every step is one of them -/

section

variable {max : Nat} {s : Shared} (r : Reply)

theorem ensureNative_cases (c : Context) (complete : Bool) (establish : Scard × Nat) :
    (c.ensureNative complete establish).1 = c ∨
      (c.ensureNative complete establish).2 = .success ∧
        ∃ native, (c.ensureNative complete establish).1 = { c with native } := by
  unfold Context.ensureNative
  repeat' split
  · exact .inl rfl
  · exact .inl rfl
  · exact .inl rfl
  · exact .inr ⟨rfl, _, rfl⟩
  · exact .inl rfl

theorem context_newContext : s.newContext.1.context s.contextCount = {} :=
  Function.update_self _ _ _

/-- A step of `SCardEstablishContext`. -/
theorem stepEstablish_step (hnext : s.next ≠ 0) (place : EstablishPlace) :
    Step s (.establish place) (stepEstablish max r s place).1
      (.establish (stepEstablish max r s place).2) := by
  cases place with
  | start =>
    have hself : s.newContext.1.setContext s.contextCount {} = s.newContext.1 := by
      rw [← context_newContext (s := s), Shared.setContext_self]
    have hcases := ensureNative_cases ({} : Context) r.complete r.establish
    have hmade (c : Context) (hc : c = {} ∨ ∃ native, c = { native }) :
        Step s (.establish .start) (s.newContext.1.setContext s.contextCount c)
          (.establish (.publish s.contextCount)) := by
      rcases hc with rfl | ⟨native, rfl⟩
      · exact .make
      · exact .make
    have hdrop (c : Context) (hc : c = {}) (answer : Answer) (hanswer : answer.handle = 0) :
        Step s (.establish .start)
          ((s.newContext.1.setContext s.contextCount c).record (.retired s.contextCount))
          (.establish (.returned answer)) := by
      rw [hc, hself]
      exact .drop hanswer
    simp only [stepEstablish, show (s.newContext).2 = s.contextCount from rfl, context_newContext]
    generalize ({} : Context).ensureNative r.complete r.establish = ensured at hcases ⊢
    obtain ⟨c, result⟩ := ensured
    dsimp only at hcases ⊢
    have hmade' := hmade c (hcases.imp id And.right)
    split
    · rename_i hfailed
      exact hdrop c (hcases.resolve_right fun h => hfailed.1 h.1) _ rfl
    split
    · split
      · rename_i hfailed
        exact hdrop c (hcases.resolve_right fun h => hfailed h.1) _ rfl
      · exact hmade'
    · exact hmade'
  | publish x =>
    simp only [stepEstablish, Shared.publishContext, Shared.allocate]
    by_cases hroom : s.contexts.length < kMaxContexts
    · by_cases hmax : s.next = max
      · simp only [hroom, hmax, if_true]
        exact .contextsFull
      · simp only [hroom, hmax, hnext, if_true, if_false, not_false_eq_true, ne_eq]
        exact .publishContext rfl hnext
    · simp only [hroom, if_false]
      exact .contextsFull
  | abandon x => exact .abandonContext rfl
  | returned answer => exact .stay _

theorem listReaders_handle (c : Context) (taken : Block → Bool) (args : ListArgs) :
    (listReaders c taken r args).2.handle = 0 := by
  unfold listReaders
  dsimp only
  repeat' split
  all_goals rfl

/-- What a call does within an unreleased context. -/
theorem withinContext_step {h : Handle} {x : Nat} (call : ContextCall)
    (hlive : (s.context x).released = false) :
    Step s (.context h call (.within x)) (withinContext r s x call).1
      (.context h call (withinContext r s x call).2) := by
  cases call with
  | listReaders args =>
    exact .inside ((s.context x).keeps_listReaders s.taken r args)
      (fun htrue => absurd (hlive.symm.trans htrue) nofun) (listReaders_handle r _ _ args) nofun
  | connect args =>
    have hkeeps := (s.context x).keeps_connectReader r args
    simp only [withinContext]
    generalize connectReader (s.context x) r args = connected at hkeeps ⊢
    obtain ⟨c, result | card⟩ := connected
    · exact .inside hkeeps (fun htrue => absurd (hlive.symm.trans htrue) nofun) rfl nofun
    · have hcount : (s.setContext x c).cardCount = s.cardCount := Shared.cardCount_recordIf _ _ _
      have hstep : Step s (.context h (.connect args) (.within x))
          ((s.setContext x c).newCard
            { owner := x, hasLocal := card.hasLocal, readerName := card.readerName }).1
          (.context h (.connect args) (.publish x s.cardCount card.protocol)) :=
        .connect hlive hkeeps rfl rfl rfl nofun
      simp only [Shared.newCard, hcount] at hstep ⊢
      exact hstep
  | freeMemory memory =>
    exact .inside ((s.context x).fills_freeMemory r.freed memory).keeps
      (fun htrue => absurd (hlive.symm.trans htrue) nofun) rfl nofun
  | releaseContext => exact .mark hlive

theorem mem_of_lookup {l : List (Handle × Nat)} {h : Handle} {x : Nat}
    (hlookup : l.lookup h = some x) : (h, x) ∈ l := by
  obtain ⟨before, after, rfl, -⟩ := List.lookup_eq_some_iff.1 hlookup
  exact List.mem_append_right _ List.mem_cons_self

/-- A step of a call through a context handle. -/
theorem stepContext_step (hnext : s.next ≠ 0) (h : Handle) (call : ContextCall)
    (place : ContextPlace) :
    Step s (.context h call place) (stepContext max r s h call place).1
      (.context h call (stepContext max r s h call place).2) := by
  cases place with
  | find =>
    simp only [stepContext, Shared.findContext]
    cases hlookup : s.contexts.lookup h with
    | none => exact .refuseContext rfl nofun
    | some x => exact .findContext (mem_of_lookup hlookup)
  | lock x =>
    simp only [stepContext]
    split
    · exact .stay _
    · rename_i hfree
      exact .lockContext (Bool.eq_false_iff.2 hfree)
  | within x =>
    simp only [stepContext]
    split
    · have hstep : Step s (.context h call (.within x)) (s.setContext x (s.context x))
          (.context h call (.unlock x { result := .invalidHandle })) :=
        .inside (.refl _) (fun _ => rfl) rfl nofun
      rw [Shared.setContext_self] at hstep
      exact hstep
    · rename_i hlive
      exact withinContext_step r call (Bool.eq_false_iff.2 hlive)
  | publish x y protocol =>
    simp only [stepContext, Shared.publishCard, Shared.allocate]
    by_cases hroom : s.cards.length < kMaxCards
    · by_cases hmax : s.next = max
      · simp only [hroom, hmax, if_true]
        exact .cardsFull
      · simp only [hroom, hmax, hnext, if_true, if_false, not_false_eq_true, ne_eq]
        exact .publishCard rfl hnext hroom
    · simp only [hroom, if_false]
      exact .cardsFull
  | abandon x y => exact .abandonCard rfl
  | erase x => exact .eraseContext
  | lockCard x owned =>
    cases owned with
    | nil => exact .passed
    | cons y owned =>
      simp only [stepContext]
      split
      · exact .stay _
      · rename_i hfree
        exact .lockOwned (Bool.eq_false_iff.2 hfree)
  | pass x y owned => exact .pass
  | free x =>
    obtain ⟨-, hlocked, hreleased, hnative⟩ :=
      (s.context x).freeAll_spec r.freed (Nat.le_refl _)
    exact .free hlocked hreleased hnative
  | releaseNative x cleanup => exact .releaseNative rfl
  | unlock x answer => exact .unlockContext
  | returned answer => exact .stay _

/-- What a call does with an active card. -/
theorem useCard_step (h : Handle) (y : Nat) (held : Option Nat) (call : CardCall) :
    Step s (.card h call (.use y held)) (useCard r s h y held call).1
      (.card h call (useCard r s h y held call).2) := by
  have hself : (s.record (.reached h y)).setContext (s.card y).owner
      (s.context (s.card y).owner) = s.record (.reached h y) := Shared.setContext_self _ _
  cases call with
  | transmit args =>
    have huse (answer : Answer) : Step s (.card h (.transmit args) (.use y held))
        (s.record (.reached h y)) (.card h (.transmit args) (.unlock y held answer)) := by
      rw [← hself]
      exact .use (.refl _) nofun
    simp only [useCard]
    split
    · exact huse _
    split
    · exact .refuseUse nofun
    · split
      · exact huse _
      · exact huse _
  | status args =>
    simp only [useCard]
    split
    · rw [← hself]
      exact .use (.refl _) nofun
    · exact .use ((s.context (s.card y).owner).fills_answerStatus _ r args _ _) nofun
  | disconnect disposition =>
    simp only [useCard]
    split
    · exact .refuseUse fun _ => nofun
    split
    · exact .refuseUse fun _ => nofun
    split
    · split
      · exact .close
      · exact .close
    split
    · rename_i hfailed
      rw [← hself]
      exact .use (.refl _) fun _ => hfailed
    · exact .close

/-- A step of a call through a card handle. -/
theorem stepCard_step (h : Handle) (call : CardCall) (place : CardPlace) :
    Step s (.card h call place) (stepCard r s h call place).1
      (.card h call (stepCard r s h call place).2) := by
  cases place with
  | find =>
    simp only [stepCard, Shared.findCard]
    cases hlookup : s.cards.lookup h with
    | none => exact .refuseCard nofun
    | some y =>
      have hmem := mem_of_lookup hlookup
      cases call with
      | status args => exact .findOwner hmem
      | transmit args => exact .findCard hmem
      | disconnect disposition => exact .findCard hmem
  | lockOwner y =>
    simp only [stepCard]
    split
    · exact .stay _
    · rename_i hfree
      exact .lockOwner (Bool.eq_false_iff.2 hfree)
  | checkOwner y x =>
    simp only [stepCard]
    split
    · exact .ownerReleased nofun
    · exact .ownerLive
  | lock y held =>
    simp only [stepCard]
    split
    · exact .stay _
    · rename_i hfree
      exact .lockCard (Bool.eq_false_iff.2 hfree)
  | check y held =>
    simp only [stepCard]
    split
    · rename_i hactive
      exact .active hactive
    · exact .inactive nofun
  | use y held => exact useCard_step r h y held call
  | erase y result => exact .eraseCard
  | unlock y held answer => exact .unlockCard
  | unlockOwner x answer => exact .unlockOwner
  | returned answer => exact .stay _

/-- **Every step of a call is one of them.** -/
theorem advance_step (hnext : s.next ≠ 0) (c : Caller) :
    Step s c (advance max r s c).1 (advance max r s c).2 := by
  cases c with
  | establish place => exact stepEstablish_step r hnext place
  | context h call place => exact stepContext_step r hnext h call place
  | card h call place => exact stepCard_step r h call place

end

end Px4.Winscard
