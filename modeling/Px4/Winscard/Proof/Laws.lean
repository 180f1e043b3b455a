import Px4.Winscard.Proof.Tables

/-!
# What the calls hold between them

The laws by which a step of a call moves what there is one of: the mutex of a context and of a card,
a handle, and the duty to bring a context to its end.
-/

namespace Px4.Winscard

variable {s s' : Shared} {c c' : Caller}

/-! ## The mutexes of the contexts -/

theorem locked_setContext {x : Nat} {k : Context} (hk : k.locked = (s.context x).locked) (q : Nat) :
    ((s.setContext x k).context q).locked = (s.context q).locked := by
  by_cases hqx : q = x
  · subst hqx
    simp [Shared.setContext, hk]
  · simp [Shared.setContext, Function.update_of_ne hqx]

theorem locked_lockContext (x : Nat) (locked : Bool) (q : Nat) :
    ((s.lockContext x locked).context q).locked =
      if q = x then locked else (s.context q).locked := by
  by_cases hqx : q = x
  · subst hqx
    simp [Shared.lockContext, Shared.setContext]
  · simp [Shared.lockContext, Shared.setContext, hqx]

/-- A context that is new is not locked. -/
theorem Tables.locked_newContext (ht : Tables s) (q : Nat) :
    (s.newContext.1.context q).locked = (s.context q).locked := by
  by_cases hq : q = s.contextCount
  · subst hq
    rw [context_newContext, ht.freshContext _ (Nat.le_refl _)]
  · simp [Shared.newContext, Function.update_of_ne hq]

/-- **The mutex of a context** is with one call. -/
theorem Step.contextLock (h : Step s c s' c') (ht : Tables s) (hc : c.Ok s)
    (hheld : ∀ x, c.holdsContext = some x → (s.context x).locked = true) (x : Nat) :
    (c'.inContext x).toNat + 0 + (s.context x).locked.toNat =
      (c.inContext x).toNat + 0 + (s'.context x).locked.toNat := by
  have hsame (hholds : c'.holdsContext = c.holdsContext)
      (hlocked : (s'.context x).locked = (s.context x).locked) :
      (c'.inContext x).toNat + 0 + (s.context x).locked.toNat =
        (c.inContext x).toNat + 0 + (s'.context x).locked.toNat := by
    rw [hlocked, Caller.inContext, Caller.inContext, hholds]
  have htake {q : Nat} (hnone : c.holdsContext = none) (hsome : c'.holdsContext = some q)
      (hfree : (s.context q).locked = false) (hs' : s' = s.lockContext q true) :
      (c'.inContext x).toNat + 0 + (s.context x).locked.toNat =
        (c.inContext x).toNat + 0 + (s'.context x).locked.toNat := by
    rw [hs', locked_lockContext, Caller.inContext, Caller.inContext, hnone, hsome]
    by_cases hxq : x = q
    · subst hxq
      simp [hfree]
    · simp [hxq, Ne.symm hxq]
  have hgive {q : Nat} (hsome : c.holdsContext = some q) (hnone : c'.holdsContext = none)
      (hs' : s' = s.lockContext q false) :
      (c'.inContext x).toNat + 0 + (s.context x).locked.toNat =
        (c.inContext x).toNat + 0 + (s'.context x).locked.toNat := by
    have hlocked := hheld q hsome
    rw [hs', locked_lockContext, Caller.inContext, Caller.inContext, hsome, hnone]
    by_cases hxq : x = q
    · subst hxq
      simp [hlocked]
    · simp [hxq, Ne.symm hxq]
  cases h with
  | drop => exact hsame rfl (ht.locked_newContext x)
  | make =>
    refine hsame rfl ((locked_setContext ?_ x).trans (ht.locked_newContext x))
    rw [context_newContext]
  | lockContext hfree => exact htake rfl rfl hfree rfl
  | lockOwner hfree => exact htake rfl rfl hfree rfl
  | unlockContext => exact hgive rfl rfl rfl
  | unlockOwner => exact hgive rfl rfl rfl
  | inside hkeeps => exact hsame rfl (locked_setContext hkeeps.locked x)
  | connect _ hkeeps =>
    refine hsame rfl ?_
    rw [Shared.context_newCard]
    exact locked_setContext hkeeps.locked x
  | mark =>
    refine hsame rfl (locked_setContext ?_ x)
    rfl
  | free hlocked => exact hsame rfl (locked_setContext hlocked x)
  | @use q call y _ k _ hkeeps =>
    exact hsame rfl (locked_setContext (s := s.record (.reached q y)) hkeeps.locked x)
  | abandonCard | abandonContext | releaseNative => exact hsame rfl (by simp)
  | pass => exact hsame rfl (by simp [Shared.lockCard, Shared.setCard, Shared.record])
  | @close q disposition y held result =>
    refine hsame ?_ (by simp [Shared.record])
    obtain hnone | ⟨-, args, hargs⟩ := hc.2.1
    · exact hnone.symm
    · cases hargs
  | @unlockCard h call y held answer =>
    refine hsame ?_ rfl
    cases held with
    | none => rfl
    | some x => rfl
  | _ => exact hsame rfl rfl

/-! ## The mutexes of the cards -/

theorem locked_setCard {y : Nat} {k : Card} (hk : k.locked = (s.card y).locked) (q : Nat) :
    ((s.setCard y k).card q).locked = (s.card q).locked := by
  by_cases hqy : q = y
  · subst hqy
    simp [Shared.setCard, hk]
  · simp [Shared.setCard, Function.update_of_ne hqy]

theorem locked_deactivate (y q : Nat) : ((s.deactivate y).card q).locked = (s.card q).locked := by
  rw [Shared.deactivate, Shared.card_recordIf]
  refine locked_setCard ?_ q
  rfl

theorem locked_lockCard (y : Nat) (locked : Bool) (q : Nat) :
    ((s.lockCard y locked).card q).locked = if q = y then locked else (s.card q).locked := by
  by_cases hqy : q = y
  · subst hqy
    simp [Shared.lockCard, Shared.setCard]
  · simp [Shared.lockCard, Shared.setCard, hqy]

/-- A card that is new is not locked. -/
theorem Tables.locked_newCard (ht : Tables s) {x : Nat} {k : Context} {card : Card}
    (hlocked : card.locked = false) (q : Nat) :
    (((s.setContext x k).newCard card).1.card q).locked = (s.card q).locked := by
  by_cases hq : q = s.cardCount
  · subst hq
    simp [Shared.newCard, hlocked, ht.freshCard _ (Nat.le_refl _)]
  · simp [Shared.newCard, hq]

/-- **The mutex of a card** is with one call. -/
theorem Step.cardLock (h : Step s c s' c') (ht : Tables s)
    (hheld : ∀ y, c.holdsCard = some y → (s.card y).locked = true) (y : Nat) :
    (c'.inCard y).toNat + 0 + (s.card y).locked.toNat =
      (c.inCard y).toNat + 0 + (s'.card y).locked.toNat := by
  have hsame (hholds : c'.holdsCard = c.holdsCard)
      (hlocked : (s'.card y).locked = (s.card y).locked) :
      (c'.inCard y).toNat + 0 + (s.card y).locked.toNat =
        (c.inCard y).toNat + 0 + (s'.card y).locked.toNat := by
    rw [hlocked, Caller.inCard, Caller.inCard, hholds]
  have htake {q : Nat} (hnone : c.holdsCard = none) (hsome : c'.holdsCard = some q)
      (hfree : (s.card q).locked = false) (hs' : s' = s.lockCard q true) :
      (c'.inCard y).toNat + 0 + (s.card y).locked.toNat =
        (c.inCard y).toNat + 0 + (s'.card y).locked.toNat := by
    rw [hs', locked_lockCard, Caller.inCard, Caller.inCard, hnone, hsome]
    by_cases hyq : y = q
    · subst hyq
      simp [hfree]
    · simp [hyq, Ne.symm hyq]
  have hgive {q : Nat} {t : Shared} (hsome : c.holdsCard = some q) (hnone : c'.holdsCard = none)
      (ht : (t.card y).locked = (s.card y).locked) (hs' : s' = t.lockCard q false) :
      (c'.inCard y).toNat + 0 + (s.card y).locked.toNat =
        (c.inCard y).toNat + 0 + (s'.card y).locked.toNat := by
    have hlocked := hheld q hsome
    rw [hs', locked_lockCard, ht, Caller.inCard, Caller.inCard, hsome, hnone]
    by_cases hyq : y = q
    · subst hyq
      simp [hlocked]
    · simp [hyq, Ne.symm hyq]
  cases h with
  | connect _ _ _ _ hlocked => exact hsame rfl (ht.locked_newCard hlocked y)
  | abandonCard => exact hsame rfl (locked_deactivate _ y)
  | close => exact hsame rfl (locked_deactivate _ y)
  | lockOwned hfree => exact htake rfl rfl hfree rfl
  | lockCard hfree => exact htake rfl rfl hfree rfl
  | @pass _ _ _ z _ =>
    exact hgive (t := (s.deactivate z).record (.passed z)) rfl rfl (locked_deactivate _ y) rfl
  | @unlockCard h call z held answer =>
    refine hgive (t := s) rfl ?_ rfl rfl
    cases held with
    | none => rfl
    | some x => rfl
  | _ => exact hsame rfl (by simp [Shared.record, Shared.lockContext, Shared.newContext,
      Shared.eraseContext, Shared.eraseCard])

/-! ## The handles -/

/-- The handle has been given out. -/
def Shared.given (s : Shared) (q : Handle) : Bool := 0x50580000 ≤ q && q < s.next

/-- **A handle** is given by one call. -/
theorem Step.handles (h : Step s c s' c') (ht : Tables s) (q : Handle) :
    (c'.gives q).toNat + 0 + (s.given q).toNat = (c.gives q).toNat + 0 + (s'.given q).toNat := by
  have hsame (hgives : c'.handle? = c.handle?) (hnext : s'.next = s.next) :
      (c'.gives q).toNat + 0 + (s.given q).toNat =
        (c.gives q).toNat + 0 + (s'.given q).toNat := by
    rw [Shared.given, Shared.given, Caller.gives, Caller.gives, hgives, hnext]
  have hgive (hnone : c.handle? = none) (hsome : c'.handle? = some s.next)
      (hnext : s'.next = s.next + 1) :
      (c'.gives q).toNat + 0 + (s.given q).toNat =
        (c.gives q).toNat + 0 + (s'.given q).toNat := by
    have hbase := ht.next
    rw [Shared.given, Shared.given, Caller.gives, Caller.gives, hnone, hsome, hnext]
    by_cases hq : q = s.next
    · subst hq
      simp [hbase]
    · have hlt : (decide (q < s.next + 1)) = decide (q < s.next) := by
        rw [decide_eq_decide, Nat.lt_succ_iff_lt_or_eq]
        exact or_iff_left hq
      have hother : (some s.next == some q) = false :=
        beq_eq_false_iff_ne.2 fun heq => hq (Option.some.inj heq).symm
      rw [hlt, hother]
      rfl
  have hnothing {answer : Answer} (hzero : answer.handle = 0) :
      ((some answer).map Answer.handle).filter (· ≠ 0) = none := by simp [hzero]
  have hhandle {answer : Answer} (hanswer : answer.handle = s.next) (hzero : s.next ≠ 0) :
      ((some answer).map Answer.handle).filter (· ≠ 0) = some s.next := by simp [hanswer, hzero]
  cases h with
  | drop hzero => exact hsame (hnothing hzero) rfl
  | abandonContext hzero => exact hsame (hnothing hzero) (by simp [Shared.retire, Shared.record])
  | refuseContext hzero => exact hsame (hnothing hzero) rfl
  | inside _ _ hzero => exact hsame (hnothing hzero) (by simp [Shared.setContext])
  | abandonCard hzero =>
    exact hsame (hnothing hzero) (by simp [Shared.deactivate, Shared.setCard])
  | releaseNative hzero => exact hsame (hnothing hzero) (by simp [Shared.retire, Shared.record])
  | publishContext hanswer hzero => exact hgive rfl (hhandle hanswer hzero) rfl
  | publishCard hanswer hzero => exact hgive rfl (hhandle hanswer hzero) rfl
  | _ => exact hsame rfl (by simp [Shared.record, Shared.lockContext, Shared.newContext,
      Shared.setContext, Shared.newCard, Shared.lockCard, Shared.setCard, Shared.deactivate,
      Shared.eraseContext, Shared.eraseCard])

/-! ## The end of a context -/

/-- The context is in the registry and not released. -/
def Shared.live (s : Shared) (x : Nat) : Bool :=
  !(s.context x).released && s.contexts.any fun entry => entry.2 == x

/-- The context has come to its end. -/
def Shared.gone (s : Shared) (x : Nat) : Bool := decide (.retired x ∈ s.log)

theorem live_eq_true {x : Nat} :
    s.live x = true ↔ (s.context x).released = false ∧ ∃ q, (q, x) ∈ s.contexts := by
  simp [Shared.live]

theorem Tables.live_of_given (ht : Tables s) {q : Handle} {x : Nat}
    (hq : .gaveContext q x ∈ s.log) (hlive : (s.context x).released = false) :
    s.live x = true := by
  obtain ⟨-, -, hreleased | hregistered⟩ := ht.gaveContext q x hq
  · rw [hlive] at hreleased
    cases hreleased
  · exact live_eq_true.2 ⟨hlive, q, hregistered⟩

/-- What the registry and the mark of a context say of it. -/
theorem live_congr {x : Nat} (hreleased : (s'.context x).released = (s.context x).released)
    (hcontexts : (s.context x).released = false →
      ((∃ q, (q, x) ∈ s'.contexts) ↔ ∃ q, (q, x) ∈ s.contexts)) : s'.live x = s.live x := by
  rw [Bool.eq_iff_iff, live_eq_true, live_eq_true, hreleased]
  exact and_congr_right hcontexts

theorem live_setContext {x : Nat} {k : Context} (hk : k.released = (s.context x).released)
    (q : Nat) : (s.setContext x k).live q = s.live q := by
  refine live_congr ?_ fun _ => by simp [Shared.setContext]
  by_cases hqx : q = x
  · subst hqx
    simp [Shared.setContext, hk]
  · simp [Shared.setContext, Function.update_of_ne hqx]

theorem gone_eq_true {x : Nat} : s.gone x = true ↔ .retired x ∈ s.log := by simp [Shared.gone]

theorem gone_congr {q : Nat} (h : .retired q ∈ s'.log ↔ .retired q ∈ s.log) :
    s'.gone q = s.gone q := by
  rw [Bool.eq_iff_iff, gone_eq_true, gone_eq_true, h]

theorem gone_setContext (x : Nat) (k : Context) (q : Nat) :
    (s.setContext x k).gone q = s.gone q :=
  gone_congr (by simp [Shared.setContext])

theorem gone_retire (x q : Nat) : (s.retire x).gone q = (s.gone q || q == x) := by
  rw [Bool.eq_iff_iff, Bool.or_eq_true, gone_eq_true, gone_eq_true, beq_iff_eq]
  simp only [Shared.retire, Shared.record, List.mem_cons, Shared.mem_recordIf, Event.retired.injEq]
  constructor
  · rintro (h | ⟨-, ⟨⟩⟩ | h)
    · exact .inr h
    · exact .inl h
  · rintro (h | h)
    · exact .inr (.inr h)
    · exact .inl h

theorem Tables.live_lt (ht : Tables s) {x : Nat} (h : s.live x = true) : x < s.contextCount := by
  obtain ⟨-, q, hq⟩ := live_eq_true.1 h
  exact (ht.gaveContext q x (ht.contexts q x hq)).2.1

theorem Tables.live_newContext (ht : Tables s) (x : Nat) :
    s.newContext.1.live x = s.live x := by
  by_cases hx : x = s.contextCount
  · have hnot {t : Shared} (hcontexts : t.contexts = s.contexts) : t.live x = false := by
      rw [Bool.eq_false_iff]
      intro hlive
      obtain ⟨-, q, hq⟩ := live_eq_true.1 hlive
      rw [hcontexts] at hq
      have hlt := (ht.gaveContext q x (ht.contexts q x hq)).2.1
      omega
    rw [hnot (t := s) rfl, hnot (t := s.newContext.1) rfl]
  · refine live_congr ?_ fun _ => Iff.rfl
    simp [Shared.newContext, hx]

theorem retiring_self {x : Nat} (h : c.retires = some x) : c.retiring x = true := by
  rw [Caller.retiring, h]
  exact beq_self_eq_true _

theorem retiring_of_ne {x q : Nat} (h : c.retires = some q) (hx : x ≠ q) :
    c.retiring x = false := by
  rw [Caller.retiring, h]
  exact beq_false_of_ne fun heq => hx (Option.some.inj heq).symm

theorem retiring_of_none {x : Nat} (h : c.retires = none) : c.retiring x = false := by
  rw [Caller.retiring, h]
  rfl

theorem Tables.not_live (ht : Tables s) {x : Nat} (h : ∀ q, .gaveContext q x ∉ s.log) :
    s.live x = false := by
  rw [Bool.eq_false_iff]
  intro hlive
  obtain ⟨-, q, hq⟩ := live_eq_true.1 hlive
  exact h q (ht.contexts q x hq)

/-- The law for one context: with one call, in the registry, or gone. -/
def Conserves (c c' : Caller) (s s' : Shared) (x : Nat) : Prop :=
  (c'.retiring x).toNat + ((s'.live x).toNat + (s'.gone x).toNat) +
      (decide (x < s.contextCount)).toNat =
    (c.retiring x).toNat + ((s.live x).toNat + (s.gone x).toNat) +
      (decide (x < s'.contextCount)).toNat

theorem Conserves.of_eq {x : Nat} (hretires : c'.retiring x = c.retiring x)
    (hlive : s'.live x = s.live x) (hgone : s'.gone x = s.gone x)
    (hcount : x < s'.contextCount ↔ x < s.contextCount) : Conserves c c' s s' x := by
  rw [Conserves, hretires, hlive, hgone, decide_eq_decide.2 hcount]

/-- What moves no context may follow. -/
theorem Conserves.then {s'' : Shared} {x : Nat} (h : Conserves c c' s s' x)
    (hcontext : s''.context = s'.context) (hcontexts : s''.contexts = s'.contexts)
    (hcount : s''.contextCount = s'.contextCount)
    (hgone : .retired x ∈ s''.log ↔ .retired x ∈ s'.log) : Conserves c c' s s'' x := by
  have hlive : s''.live x = s'.live x := by rw [Shared.live, Shared.live, hcontext, hcontexts]
  rw [Conserves, hlive, gone_congr hgone, hcount]
  exact h

/-- A context that is neither marked nor moved. -/
theorem Conserves.setContext {x q : Nat} {k : Context} (hretires : c'.retires = c.retires)
    (hk : k.released = (s.context q).released) : Conserves c c' s (s.setContext q k) x := by
  refine .of_eq ?_ (live_setContext hk x) (gone_setContext q k x) ?_
  · rw [Caller.retiring, Caller.retiring, hretires]
  · rw [Shared.setContext, Shared.contextCount_recordIf]

/-- A context that the call brings to its end. -/
theorem Conserves.retire {x q : Nat} (hsome : c.retires = some q) (hnone : c'.retires = none)
    (hopen : s.gone q = false) : Conserves c c' s (s.retire q) x := by
  have hlive : (s.retire q).live x = s.live x :=
    live_congr (by rw [Shared.context_retire]) fun _ => by simp [Shared.retire, Shared.record]
  have hcount : (s.retire q).contextCount = s.contextCount := by
    simp [Shared.retire, Shared.record]
  by_cases hxq : x = q
  · subst hxq
    rw [Conserves, hlive, hcount, gone_retire, retiring_self hsome, retiring_of_none hnone, hopen]
    simp
    omega
  · refine .of_eq ?_ hlive ?_ (by rw [hcount])
    · rw [retiring_of_ne hsome hxq, retiring_of_none hnone]
    · rw [gone_retire, beq_false_of_ne hxq, Bool.or_false]

theorem lt_newContext {x : Nat} (hx : x ≠ s.contextCount) :
    x < s.contextCount + 1 ↔ x < s.contextCount := by
  rw [Nat.lt_succ_iff_lt_or_eq]
  exact or_iff_left hx

theorem Tables.new_not_live (ht : Tables s) : s.live s.contextCount = false := by
  rw [Bool.eq_false_iff]
  exact fun h => Nat.lt_irrefl _ (ht.live_lt h)

/-- A context that is made and dropped at once. -/
theorem Conserves.drop (ht : Tables s) (hgone : s.gone s.contextCount = false) {x : Nat}
    (hnone : c.retires = none) (hnone' : c'.retires = none) :
    Conserves c c' s (s.newContext.1.record (.retired s.contextCount)) x := by
  have hlive : (s.newContext.1.record (.retired s.contextCount)).live x = s.live x :=
    ht.live_newContext x
  by_cases hx : x = s.contextCount
  · have hlog : (s.newContext.1.record (.retired s.contextCount)).gone x = true :=
      gone_eq_true.2 (by rw [hx]; exact List.mem_cons_self)
    rw [Conserves, hlive, hlog, hx, ht.new_not_live, hgone, retiring_of_none hnone,
      retiring_of_none hnone']
    simp [Shared.newContext, Shared.record]
  · refine .of_eq ?_ hlive (gone_congr ?_) (lt_newContext hx)
    · rw [retiring_of_none hnone, retiring_of_none hnone']
    · simp [Shared.record, Shared.newContext, hx]

/-- A context that is made for the registry. -/
theorem Conserves.make (ht : Tables s) (hgone : s.gone s.contextCount = false) {native x : Nat}
    (hnone : c.retires = none) (hsome : c'.retires = some s.contextCount) :
    Conserves c c' s (s.newContext.1.setContext s.contextCount { native }) x := by
  have hlive : (s.newContext.1.setContext s.contextCount { native }).live x = s.live x :=
    (live_setContext (by rw [context_newContext]) x).trans (ht.live_newContext x)
  have hlog : (s.newContext.1.setContext s.contextCount { native }).gone x = s.gone x :=
    gone_setContext _ _ x
  have hcount : (s.newContext.1.setContext s.contextCount { native }).contextCount =
      s.contextCount + 1 := Shared.contextCount_recordIf _ _ _
  by_cases hx : x = s.contextCount
  · subst hx
    rw [Conserves, hlive, hlog, hcount, ht.new_not_live, hgone, retiring_self hsome,
      retiring_of_none hnone]
    simp
  · refine .of_eq ?_ hlive hlog (by rw [hcount]; exact lt_newContext hx)
    rw [retiring_of_ne hsome hx, retiring_of_none hnone]

/-- A context that comes into the registry. -/
theorem Conserves.publish {q x : Nat} {h : Handle} (hreleased : (s.context q).released = false)
    (hnot : s.live q = false) (hsome : c.retires = some q) (hnone : c'.retires = none) :
    Conserves c c' s ({ s with next := s.next + 1, contexts := s.contexts ++ [(h, q)] }.record
      (.gaveContext h q)) x := by
  generalize hs' : ({ s with next := s.next + 1, contexts := s.contexts ++ [(h, q)] } :
    Shared).record (.gaveContext h q) = t
  have hcontexts : t.contexts = s.contexts ++ [(h, q)] := by rw [← hs']; rfl
  have hcontext : t.context = s.context := by rw [← hs']; rfl
  have hcount : t.contextCount = s.contextCount := by rw [← hs']; rfl
  have hlog : t.gone x = s.gone x := gone_congr (by rw [← hs']; simp [Shared.record])
  by_cases hx : x = q
  · subst hx
    have hlive : t.live x = true := by
      refine live_eq_true.2 ⟨by rw [hcontext]; exact hreleased, h, ?_⟩
      rw [hcontexts]
      exact List.mem_append_right _ List.mem_cons_self
    rw [Conserves, hlive, hlog, hcount, hnot, retiring_of_none hnone, retiring_self hsome]
    simp
  · refine .of_eq ?_ (live_congr (by rw [hcontext]) fun _ => ?_) hlog (by rw [hcount])
    · rw [retiring_of_none hnone, retiring_of_ne hsome hx]
    · simp [hcontexts, hx]

/-- A context that is marked as released. -/
theorem Conserves.mark {z x : Nat} (hlive : s.live z = true) (hnone : c.retires = none)
    (hsome : c'.retires = some z) :
    Conserves c c' s (s.setContext z { s.context z with released := true }) x := by
  have hgone : (s.setContext z { s.context z with released := true }).gone x = s.gone x :=
    gone_setContext _ _ x
  have hcount : (s.setContext z { s.context z with released := true }).contextCount =
      s.contextCount := Shared.contextCount_recordIf _ _ _
  by_cases hx : x = z
  · subst hx
    have hmarked : (s.setContext x { s.context x with released := true }).live x = false := by
      simp [Shared.live, Shared.setContext]
    rw [Conserves, hmarked, hgone, hcount, hlive, retiring_self hsome, retiring_of_none hnone]
    simp
  · refine .of_eq ?_ (live_congr ?_ fun _ => ?_) hgone (by rw [hcount])
    · rw [retiring_of_ne hsome hx, retiring_of_none hnone]
    · simp [Shared.setContext, hx]
    · simp [Shared.setContext]

/-- The entry of a released context is erased. -/
theorem Tables.live_eraseContext (ht : Tables s) {q : Handle} {z : Nat}
    (hgave : .gaveContext q z ∈ s.log) (hreleased : (s.context z).released = true) (x : Nat) :
    (s.eraseContext q z).1.live x = s.live x := by
  refine live_congr rfl fun hlive => exists_congr fun p =>
    ⟨fun h => (List.mem_filter.1 h).1, fun h => List.mem_filter.2 ⟨h, ?_⟩⟩
  rw [bne_iff_ne]
  intro (heq : p = q)
  subst heq
  -- the entry of the handle is that of the context that is released
  rw [ht.contextOf p x z (ht.contexts p x h) hgave, hreleased] at hlive
  cases hlive

/-- **The end of a context** is brought about by one call. -/
theorem Step.retired (h : Step s c s' c') (ht : Tables s) (hc : c.Ok s)
    (hgone : ∀ x, s.gone x = true → x < s.contextCount)
    (hopen : ∀ x, c.retires = some x → s.gone x = false) (x : Nat) : Conserves c c' s s' x := by
  have hnew : s.gone s.contextCount = false := by
    rw [Bool.eq_false_iff]
    exact fun h => Nat.lt_irrefl _ (hgone _ h)
  cases h with
  | drop => exact .drop ht hnew rfl rfl
  | make => exact .make ht hnew rfl rfl
  | publishContext => exact .publish hc.2.1 (ht.not_live hc.2.2) rfl rfl
  | abandonContext => exact .retire rfl rfl (hopen _ rfl)
  | mark hlive => exact .mark (ht.live_of_given hc hlive) rfl rfl
  | eraseContext => exact .of_eq rfl (ht.live_eraseContext hc.1 hc.2 x) rfl Iff.rfl
  | releaseNative => exact .retire rfl rfl (hopen _ rfl)
  | connect _ hkeeps =>
    exact Conserves.then (.setContext rfl hkeeps.released) (by simp) (by simp [Shared.newCard])
      (by simp [Shared.newCard]) (by simp [Shared.newCard])
  | inside hkeeps => exact .setContext rfl hkeeps.released
  | lockContext | unlockContext | lockOwner | unlockOwner => exact .setContext rfl rfl
  | free _ hreleased => exact .setContext rfl hreleased
  | use hkeeps =>
    exact Conserves.then (.setContext rfl hkeeps.released)
      (by simp [Shared.setContext, Shared.record]) (by simp [Shared.setContext, Shared.record])
      (by simp [Shared.setContext, Shared.record]) (by simp [Shared.setContext, Shared.record])
  | publishCard =>
    exact Conserves.then (.of_eq rfl rfl rfl Iff.rfl) rfl rfl rfl (by simp [Shared.record])
  | abandonCard | pass | close =>
    refine Conserves.then (.of_eq rfl rfl rfl Iff.rfl) ?_ ?_ ?_ ?_ <;>
      simp [Shared.deactivate, Shared.record, Shared.setCard, Shared.lockCard]
  | @unlockCard _ _ _ held _ => cases held <;> exact .of_eq rfl rfl rfl Iff.rfl
  | _ => exact .of_eq rfl rfl rfl Iff.rfl

end Px4.Winscard
