import Px4.Winscard.Proof.Books

/-!
# Calls of the proxy, in any order

`Inv` is the invariant of all interleavings: the tables and the books, what each call may rely on,
the laws of what there is one of, and where the cards are that are not closed.
-/

namespace Px4.Winscard

variable {s s' : Shared} {c c' d : Caller}

/-! ## Where the cards are -/

/-- The call has the card, which it has to bring into the registry or to close. -/
def Caller.keeps (y : Nat) (c : Caller) : Prop := c.making = some y ∨ y ∈ c.owned

/-- The card is in the registry. -/
def Shared.registered (s : Shared) (y : Nat) : Prop := ∃ h, (h, y) ∈ s.cards

/-- **A card that is not closed is not lost.** -/
theorem Step.placed (h : Step s c s' c') (ht : Tables s) (hc : c.Ok s) {y : Nat}
    (hy : y < s'.cardCount) (hactive : (s'.card y).active = true)
    (hold : y < s.cardCount → s.registered y ∨ c.keeps y) : s'.registered y ∨ c'.keeps y := by
  have hchange := h.change hc
  have hstill (hy : y < s.cardCount) : (s.card y).active = true := by
    by_contra hinactive
    rw [hchange.inactive hy (Bool.eq_false_iff.2 hinactive)] at hactive
    cases hactive
  have hsame (hcards : s'.cards = s.cards) (hcount : s'.cardCount = s.cardCount)
      (hkeeps : c.keeps y → c'.keeps y) : s'.registered y ∨ c'.keeps y := by
    rw [Shared.registered, hcards]
    exact (hold (hcount ▸ hy)).imp_right hkeeps
  cases h with
  | drop | make | abandonContext | lockContext | inside | mark | free | releaseNative
  | unlockContext | lockOwner | use | unlockOwner =>
    exact hsame (by simp [Shared.newContext, Shared.record, Shared.setContext, Shared.lockContext,
      Shared.retire]) (by simp [Shared.newContext, Shared.record, Shared.setContext,
      Shared.lockContext, Shared.retire]) id
  | close =>
    exact hsame (by simp [Shared.deactivate, Shared.record, Shared.setCard])
      (by simp [Shared.deactivate, Shared.record, Shared.setCard]) id
  | @connect _ _ x _ k _ =>
    by_cases hnew : y < s.cardCount
    · rcases hold hnew with ⟨q, hq⟩ | hmaking | howned
      · exact .inl ⟨q, by simpa [Shared.newCard, Shared.setContext] using hq⟩
      · cases hmaking
      · cases howned
    · right
      have hcount : y = s.cardCount := by
        simp only [Shared.newCard, Shared.cardCount_recordIf, Shared.cardCount_setContext] at hy
        omega
      rw [hcount]
      exact .inl rfl
  | @publishCard _ _ _ z _ _ =>
    rcases hold hy with ⟨q, hq⟩ | hmaking | howned
    · exact .inl ⟨q, List.mem_append_left _ hq⟩
    · cases hmaking
      exact .inl ⟨s.next, List.mem_append_right _ List.mem_cons_self⟩
    · cases howned
  | @abandonCard _ _ _ z _ =>
    refine hsame (by simp [Shared.deactivate, Shared.setCard])
      (by simp [Shared.deactivate, Shared.setCard]) fun hkeeps => ?_
    rcases hkeeps with hmaking | howned
    · cases hmaking
      rw [inactive_deactivate] at hactive
      cases hactive
    · cases howned
  | @eraseContext q _ x =>
    rcases hold hy with ⟨p, hp⟩ | hmaking | howned
    · by_cases howner : (s.card y).owner = x
      · refine .inr (.inr (List.mem_map.2 ⟨(p, y), List.mem_filter.2 ⟨hp, ?_⟩, rfl⟩))
        exact beq_iff_eq.2 howner
      · exact .inl ⟨p, List.mem_filter.2 ⟨hp, bne_iff_ne.2 howner⟩⟩
    · cases hmaking
    · cases howned
  | passed =>
    refine hsame rfl rfl fun hkeeps => ?_
    rcases hkeeps with hmaking | howned
    · cases hmaking
    · cases howned
  | lockOwned => exact hsame rfl rfl id
  | @pass _ _ _ z owned =>
    refine hsame (by simp [Shared.deactivate, Shared.record, Shared.setCard, Shared.lockCard])
      (by simp [Shared.deactivate, Shared.record, Shared.setCard, Shared.lockCard]) fun hkeeps => ?_
    rcases hkeeps with hmaking | howned
    · cases hmaking
    rcases List.mem_cons.1 howned with rfl | howned
    · simp [Shared.lockCard, Shared.setCard, Shared.record, Shared.deactivate] at hactive
    · exact .inr howned
  | @eraseCard q _ z _ _ =>
    rcases hold hy with ⟨p, hp⟩ | hkeeps
    · refine .inl ⟨p, List.mem_filter.2 ⟨hp, bne_iff_ne.2 ?_⟩⟩
      rintro rfl
      -- the handle is that of the card that has been closed
      rw [ht.cardOf p y z (ht.cards p y hp).1 hc.1] at hactive
      exact absurd (hc.2.1.symm.trans hactive) Bool.false_ne_true
    · exact .inr hkeeps
  | @unlockCard _ _ _ held _ => cases held <;> exact hsame rfl rfl id
  | _ => exact hsame rfl rfl id

/-! ## The end of a context -/

/-- **A context that comes to its end**, and how. -/
theorem Step.gone_cases (h : Step s c s' c') {x : Nat} (hgone : s'.gone x = true) :
    s.gone x = true ∨ s'.card = s.card ∧ s'.cardCount = s.cardCount ∧
      (c = .establish .start ∧ x = s.contextCount ∨ c = .establish (.abandon x) ∨
        ∃ q call cleanup, c = .context q call (.releaseNative x cleanup)) := by
  have hsame (hlog : .retired x ∈ s'.log ↔ .retired x ∈ s.log) : s.gone x = true :=
    gone_eq_true.2 (hlog.1 (gone_eq_true.1 hgone))
  cases h with
  | drop => 
    rcases List.mem_cons.1 (gone_eq_true.1 hgone) with heq | hmem
    · cases heq
      exact .inr ⟨rfl, rfl, .inl ⟨rfl, rfl⟩⟩
    · exact .inl (gone_eq_true.2 hmem)
  | @abandonContext q _ =>
    rw [gone_retire, Bool.or_eq_true, beq_iff_eq] at hgone
    rcases hgone with hgone | rfl
    · exact .inl hgone
    · exact .inr ⟨Shared.card_retire _ _, by simp [Shared.retire, Shared.record], .inr (.inl rfl)⟩
  | @releaseNative q call z cleanup _ =>
    rw [gone_retire, Bool.or_eq_true, beq_iff_eq] at hgone
    rcases hgone with hgone | rfl
    · exact .inl hgone
    · exact .inr ⟨Shared.card_retire _ _, by simp [Shared.retire, Shared.record],
        .inr (.inr ⟨q, call, cleanup, rfl⟩)⟩
  | _ => exact .inl (hsame (by simp [Shared.record, Shared.setContext, Shared.lockContext,
      Shared.newContext, Shared.newCard, Shared.deactivate, Shared.setCard, Shared.lockCard,
      Shared.eraseContext, Shared.eraseCard]))

/-- A card that is new is one of a context that is not released. -/
theorem Step.live_newCard (h : Step s c s' c') (ht : Tables s) (hc : c.Ok s) {y : Nat}
    (hold : ¬y < s.cardCount) (hy : y < s'.cardCount) : s.live (s'.card y).owner = true := by
  have hsame (hcount : s'.cardCount = s.cardCount) : s.live (s'.card y).owner = true :=
    absurd (hcount ▸ hy) hold
  cases h with
  | @connect _ _ x _ k card hlive _ howner =>
    have hcount : y = s.cardCount := by
      simp only [Shared.newCard, Shared.cardCount_recordIf, Shared.cardCount_setContext] at hy
      omega
    have hnew : (((s.setContext x k).newCard card).1.card y).owner = x := by
      simp [Shared.newCard, hcount, howner]
    rw [hnew]
    exact ht.live_of_given hc hlive
  | _ => exact hsame (by simp [Shared.record, Shared.setContext, Shared.lockContext,
      Shared.newContext, Shared.deactivate, Shared.setCard, Shared.lockCard, Shared.retire,
      Shared.eraseContext, Shared.eraseCard])

/-! ## The invariant -/

/-- What holds in every interleaving. -/
structure Inv (s : Shared) (callers : List Caller) : Prop where
  tables : Tables s
  natives : Natives s
  cards : Cards s
  closings : Closings s
  clients : Clients s
  memory : Memory s
  ok : ∀ c ∈ callers, c.Ok s
  contextLocks : ∀ x, callers.countP (Caller.inContext x) + 0 = (s.context x).locked.toNat
  cardLocks : ∀ y, callers.countP (Caller.inCard y) + 0 = (s.card y).locked.toNat
  handles : ∀ h, callers.countP (Caller.gives h) + 0 = (s.given h).toNat
  duties : ∀ x, callers.countP (Caller.retiring x) + ((s.live x).toNat + (s.gone x).toNat) =
    (decide (x < s.contextCount)).toNat
  placed : ∀ y, y < s.cardCount → (s.card y).active = true →
    s.registered y ∨ ∃ c ∈ callers, c.keeps y
  closed : ∀ x, s.gone x = true → ∀ y, y < s.cardCount → (s.card y).owner = x →
    (s.card y).active = false

variable {before after : List Caller}

theorem Inv.live_gone {callers : List Caller} (h : Inv s callers) {x : Nat}
    (hlive : s.live x = true) : s.gone x = false := by
  have hduty := h.duties x
  rw [hlive] at hduty
  cases hgone : s.gone x with
  | false => rfl
  | true =>
    rw [hgone] at hduty
    have := Bool.toNat_le (decide (x < s.contextCount))
    simp at hduty
    omega

theorem Inv.gone_lt {callers : List Caller} (h : Inv s callers) {x : Nat}
    (hgone : s.gone x = true) : x < s.contextCount := by
  have hduty := h.duties x
  rw [hgone] at hduty
  by_contra hlt
  rw [decide_eq_false hlt] at hduty
  simp at hduty

theorem Inv.contextHeld (h : Inv s (before ++ c :: after)) {x : Nat}
    (hx : c.holdsContext = some x) : (s.context x).locked = true :=
  Lib.held_of_count (by rw [Caller.inContext, hx]; exact beq_self_eq_true _) (h.contextLocks x)

theorem Inv.cardHeld (h : Inv s (before ++ c :: after)) {y : Nat} (hy : c.holdsCard = some y) :
    (s.card y).locked = true :=
  Lib.held_of_count (by rw [Caller.inCard, hy]; exact beq_self_eq_true _) (h.cardLocks y)

theorem Inv.retires_open (h : Inv s (before ++ c :: after)) {x : Nat} (hx : c.retires = some x) :
    s.gone x = false := by
  have hpos := Lib.countP_pos_middle before after (retiring_self hx)
  have hduty := h.duties x
  have hle := Bool.toNat_le (decide (x < s.contextCount))
  cases hgone : s.gone x with
  | false => rfl
  | true =>
    rw [hgone, Bool.toNat_true] at hduty
    omega

/-- Two calls are apart. -/
theorem Inv.apart (h : Inv s (before ++ c :: after)) (hd : d ∈ before ++ after) : Apart c d := by
  refine ⟨fun x hx hx' => ?_, fun y hy hy' => ?_, fun x hx hx' => ?_⟩
  · have hother := Lib.alone (Lib.le_one_of_count (h.contextLocks x))
      (by rw [Caller.inContext, hx]; exact beq_self_eq_true _) d hd
    rw [Caller.inContext, hx', beq_self_eq_true] at hother
    cases hother
  · have hother := Lib.alone (Lib.le_one_of_count (h.cardLocks y))
      (by rw [Caller.inCard, hy]; exact beq_self_eq_true _) d hd
    rw [Caller.inCard, hy', beq_self_eq_true] at hother
    cases hother
  · have hother := Lib.alone (Lib.le_one_of_count (h.duties x)) (retiring_self hx) d hd
    rw [retiring_self hx'] at hother
    cases hother

theorem retires_of_owned (hd : d.Ok s) {y : Nat} (h : y ∈ d.owned) :
    d.retires = some (s.card y).owner := by
  cases d with
  | establish place => cases h
  | card q call place => cases h
  | context q call place =>
    cases place with
    | lockCard x owned =>
      rw [(hd.2.2 y h).1]
      rfl
    | pass x z owned =>
      rw [(hd.2.2 y h).1]
      rfl
    | _ => cases h

/-- **Every card of a context is closed** when its native context is released. -/
theorem Inv.closed_at_release {q : Handle} {call : ContextCall} {x y : Nat} {cleanup : Scard}
    (h : Inv s (before ++ .context q call (.releaseNative x cleanup) :: after))
    (hy : y < s.cardCount) (howner : (s.card y).owner = x) : (s.card y).active = false := by
  obtain ⟨-, herased⟩ := h.ok _ (List.mem_append_right _ List.mem_cons_self)
  rw [Bool.eq_false_iff]
  intro hactive
  rcases h.placed y hy hactive with ⟨p, hp⟩ | ⟨d, hd, hkeeps⟩
  · -- a card in the registry has its context there
    obtain ⟨-, p', hp'⟩ := h.tables.cards p y hp
    rw [howner] at hp'
    exact herased.erased p' hp'
  have hok := h.ok d hd
  have hother (hd : d ∈ before ++ after) : False := by
    have hapart := h.apart hd
    rcases hkeeps with hmaking | howned
    · -- the call that has made the card holds the mutex of the context
      exact hapart.context x rfl (howner ▸ holdsContext_of_making hok hmaking)
    · exact hapart.retires x rfl (howner ▸ retires_of_owned hok howned)
  rcases List.mem_append.1 hd with hd | hd
  · exact hother (List.mem_append_left _ hd)
  rcases List.mem_cons.1 hd with rfl | hd
  · rcases hkeeps with hmaking | howned
    · cases hmaking
    · cases howned
  · exact hother (List.mem_append_right _ hd)

/-- What is gone has no card that is not closed. -/
theorem Inv.step_closed (h : Inv s (before ++ c :: after)) (hstep : Step s c s' c') (x : Nat)
    (hgone : s'.gone x = true) (y : Nat) (hy : y < s'.cardCount)
    (howner : (s'.card y).owner = x) : (s'.card y).active = false := by
  have hok := h.ok c (by simp)
  have hchange := hstep.change hok
  rcases hstep.gone_cases hgone with hold | ⟨hcard, hcount, hhow⟩
  · by_cases hnew : y < s.cardCount
    · rw [hchange.owner y hnew] at howner
      exact hchange.inactive hnew (h.closed x hold y hnew howner)
    · have hlive := hstep.live_newCard h.tables hok hnew hy
      rw [howner] at hlive
      exact absurd ((h.live_gone hlive).symm.trans hold) Bool.false_ne_true
  · rw [hcard] at howner ⊢
    rw [hcount] at hy
    obtain ⟨p, hp⟩ := h.tables.owner y hy
    rw [howner] at hp
    rcases hhow with ⟨-, rfl⟩ | rfl | ⟨q, call, cleanup, rfl⟩
    · exact absurd (h.tables.gaveContext p _ hp).2.1 (Nat.lt_irrefl _)
    · exact absurd hp (hok.2.2 p)
    · exact h.closed_at_release hy howner

/-- **Every step keeps the invariant.** -/
theorem Inv.step (h : Inv s (before ++ c :: after)) (hstep : Step s c s' c') :
    Inv s' (before ++ c' :: after) := by
  have hok := h.ok c (by simp)
  have hchange := hstep.change hok
  refine {
    tables := hstep.tables h.tables hok
    natives := hstep.natives h.tables h.natives hok (fun _ => h.gone_lt) (fun _ => h.retires_open)
      fun _ => h.live_gone
    cards := hstep.cards h.tables h.cards hok
    closings := hstep.closings h.tables h.closings hok
    clients := hstep.clients h.clients
    memory := hstep.memory h.memory hok
    ok := fun d hd => ?_
    contextLocks := fun x => Lib.count_advance (h.contextLocks x)
      (hstep.contextLock h.tables hok (fun _ => h.contextHeld) x)
    cardLocks := fun y => Lib.count_advance (h.cardLocks y)
      (hstep.cardLock h.tables (fun _ => h.cardHeld) y)
    handles := fun q => Lib.count_advance (h.handles q) (hstep.handles h.tables q)
    duties := fun x => Lib.count_advance (h.duties x)
      (hstep.retired h.tables hok (fun _ => h.gone_lt) (fun _ => h.retires_open) x)
    placed := fun y hy hactive => ?_
    closed := h.step_closed hstep }
  · have hother (hd : d ∈ before ++ after) : d.Ok s' := by
      refine hchange.ok h.tables hok (h.ok d ?_) (h.apart hd)
      rcases List.mem_append.1 hd with hd | hd
      · exact List.mem_append_left _ hd
      · exact List.mem_append_right _ (List.mem_cons_of_mem _ hd)
    rcases List.mem_append.1 hd with hd | hd
    · exact hother (List.mem_append_left _ hd)
    rcases List.mem_cons.1 hd with rfl | hd
    · exact hstep.ok h.tables hok
    · exact hother (List.mem_append_right _ hd)
  · -- a card that another call keeps is still with it
    by_cases hother : ∃ d ∈ before ++ after, d.keeps y
    · obtain ⟨d, hd, hkeeps⟩ := hother
      refine .inr ⟨d, ?_, hkeeps⟩
      rcases List.mem_append.1 hd with hd | hd
      · exact List.mem_append_left _ hd
      · exact List.mem_append_right _ (List.mem_cons_of_mem _ hd)
    refine (hstep.placed h.tables hok hy hactive fun hy' => ?_).imp_right fun hkeeps =>
      ⟨c', by simp, hkeeps⟩
    have hactive' : (s.card y).active = true := by
      by_contra hinactive
      rw [hchange.inactive hy' (Bool.eq_false_iff.2 hinactive)] at hactive
      cases hactive
    refine (h.placed y hy' hactive').imp_right fun ⟨d, hd, hkeeps⟩ => ?_
    rcases List.mem_append.1 hd with hd | hd
    · exact absurd ⟨d, List.mem_append_left _ hd, hkeeps⟩ hother
    rcases List.mem_cons.1 hd with rfl | hd
    · exact hkeeps
    · exact absurd ⟨d, List.mem_append_right _ hd, hkeeps⟩ hother

/-- A call that comes in holds nothing. -/
theorem begin_holds (s : Shared) (op : Call) :
    (begin op).holdsContext = none ∧ (begin op).holdsCard = none ∧ (begin op).handle? = none ∧
      (begin op).retires = none ∧ (begin op).Ok s := by
  cases op with
  | establishContext output reserved scope =>
    simp only [begin]
    repeat' split
    all_goals exact ⟨rfl, rfl, rfl, rfl, trivial⟩
  | context h call =>
    cases hcheck : call.check with
    | none =>
      simp only [begin, hcheck]
      exact ⟨rfl, rfl, rfl, rfl, trivial⟩
    | some result =>
      simp only [begin, hcheck]
      refine ⟨rfl, rfl, rfl, rfl, fun hcall => ?_⟩
      rw [hcall] at hcheck
      cases hcheck
  | card h call =>
    cases hcheck : call.check with
    | none =>
      simp only [begin, hcheck]
      exact ⟨rfl, rfl, rfl, rfl, trivial⟩
    | some result =>
      simp only [begin, hcheck]
      refine ⟨rfl, rfl, rfl, rfl, fun ⟨disposition, hcall⟩ => ?_⟩
      rw [hcall] at hcheck
      cases hcheck

theorem Inv.enter {callers : List Caller} (h : Inv s callers) (op : Call) :
    Inv s (callers ++ [begin op]) := by
  obtain ⟨hcontext, hcard, hhandle, hretires, hok⟩ := begin_holds s op
  have hcount {holds : Caller → Bool} (hnot : holds (begin op) = false) :
      (callers ++ [begin op]).countP holds = callers.countP holds := by
    rw [List.countP_append, List.countP_singleton, hnot]
    rfl
  refine { h with
    ok := fun d hd => ?_
    contextLocks := fun x => ?_
    cardLocks := fun y => ?_
    handles := fun q => ?_
    duties := fun x => ?_
    placed := fun y hy hactive => ?_ }
  · rcases List.mem_append.1 hd with hd | hd
    · exact h.ok d hd
    · obtain rfl := List.mem_singleton.1 hd
      exact hok
  · rw [hcount (by rw [Caller.inContext, hcontext]; rfl)]
    exact h.contextLocks x
  · rw [hcount (by rw [Caller.inCard, hcard]; rfl)]
    exact h.cardLocks y
  · rw [hcount (by rw [Caller.gives, hhandle]; rfl)]
    exact h.handles q
  · rw [hcount (retiring_of_none hretires)]
    exact h.duties x
  · rcases h.placed y hy hactive with hregistered | ⟨d, hd, hkeeps⟩
    · exact .inl hregistered
    · exact .inr ⟨d, List.mem_append_left _ hd, hkeeps⟩

theorem given_init (q : Handle) : Shared.given {} q = false := by
  rw [Bool.eq_false_iff]
  intro h
  simp only [Shared.given, Bool.and_eq_true, decide_eq_true_eq] at h
  exact absurd h.1 (Nat.not_le_of_lt h.2)

theorem inv_init : Inv {} [] where
  tables := tables_init
  natives := natives_init
  cards := cards_init
  closings := closings_init
  clients := clients_init
  memory := memory_init
  ok _ hd := absurd hd List.not_mem_nil
  contextLocks _ := rfl
  cardLocks _ := rfl
  handles q := by
    rw [given_init]
    rfl
  duties x := by
    rw [live_init, gone_init]
    rfl
  placed y hy := absurd hy (Nat.not_lt_zero y)
  closed x hgone := by
    rw [gone_init] at hgone
    cases hgone

/-- The next step of a call. -/
theorem Inv.next (max : Nat) (r : Reply) (h : Inv s (before ++ c :: after)) :
    Inv (advance max r s c).1 (before ++ (advance max r s c).2 :: after) := by
  have hnext := h.tables.next
  exact h.step (advance_step r (by omega) c)

theorem run_inv (max : Nat) (moves : List (Lib.Move Call Reply)) :
    Inv (run max moves).shared (run max moves).callers :=
  Lib.Pool.run_inv (I := Inv) (fun _ _ op h => h.enter op) (fun r _ _ _ _ h => h.next max r)
    moves inv_init

/-! ## No call is stuck -/

namespace Caller

/-- A bound on the steps that are left. -/
def rank : Caller → Nat
  | .establish place =>
    match place with
    | .start => 3
    | .publish _ => 2
    | .abandon _ => 1
    | .returned _ => 0
  | .context _ _ place =>
    match place with
    | .find => 2 * kMaxCards + 8
    | .lock _ => 2 * kMaxCards + 7
    | .within _ => 2 * kMaxCards + 6
    | .erase _ => 2 * kMaxCards + 5
    | .pass _ _ owned => 2 * owned.length + 5
    | .lockCard _ owned => 2 * owned.length + 4
    | .free _ | .publish _ _ _ => 3
    | .releaseNative _ _ | .abandon _ _ => 2
    | .unlock _ _ => 1
    | .returned _ => 0
  | .card _ _ place =>
    match place with
    | .find => 9
    | .lockOwner _ => 8
    | .checkOwner _ _ => 7
    | .lock _ _ => 6
    | .check _ _ => 5
    | .use _ _ => 4
    | .erase _ _ => 3
    | .unlock _ _ _ => 2
    | .unlockOwner _ _ => 1
    | .returned _ => 0

/-- The context for whose mutex the call waits. -/
def waitsContext (s : Shared) : Caller → Option Nat
  | .context _ _ (.lock x) => some x
  | .card _ _ (.lockOwner y) => some (s.card y).owner
  | _ => none

/-- The card for whose mutex the call waits. -/
def waitsCard : Caller → Option Nat
  | .context _ _ (.lockCard _ (y :: _)) | .card _ _ (.lock y _) => some y
  | _ => none

/-- A call that holds the mutex of a card waits for none and has not returned. -/
theorem waits_of_holdsCard {y : Nat} (h : c.holdsCard = some y) :
    c.waitsContext s = none ∧ c.waitsCard = none ∧ c.rank ≠ 0 := by
  cases c with
  | establish place => cases h
  | context q call place =>
    cases place with
    | pass => exact ⟨rfl, rfl, nofun⟩
    | _ => cases h
  | card q call place =>
    cases place with
    | check | use | erase | unlock => exact ⟨rfl, rfl, nofun⟩
    | _ => cases h

/-- A call that holds the mutex of a context waits for none of them and has not returned. -/
theorem waits_of_holdsContext {x : Nat} (h : c.holdsContext = some x) :
    c.waitsContext s = none ∧ c.rank ≠ 0 := by
  cases c with
  | establish place => cases h
  | context q call place =>
    cases place with
    | find | lock | returned => cases h
    | pass x y owned => exact ⟨rfl, nofun⟩
    | _ => exact ⟨rfl, nofun⟩
  | card q call place =>
    cases place with
    | find | lockOwner | erase | returned => cases h
    | _ => exact ⟨rfl, nofun⟩

end Caller

/-- **A step that is one brings the call closer to its end.** -/
theorem Step.rank (h : Step s c s' c') (ht : Tables s) : c' = c ∨ c'.rank < c.rank := by
  cases h with
  | stay => exact .inl rfl
  | @eraseContext q call x =>
    right
    have hle : (s.eraseContext q x).2.length ≤ kMaxCards := by
      refine le_trans ?_ ht.room
      rw [Shared.eraseContext, List.length_map]
      exact List.length_filter_le _ _
    simp only [Caller.rank]
    omega
  | @unlockCard q call y held answer =>
    right
    cases held <;> simp [Caller.rank]
  | lockOwned =>
    right
    simp only [Caller.rank, List.length_cons]
    omega
  | _ =>
    right
    simp [Caller.rank]

theorem stepEstablish_ne {max : Nat} {r : Reply} {place : EstablishPlace}
    (hrank : (Caller.establish place).rank ≠ 0) : (stepEstablish max r s place).2 ≠ place := by
  cases place with
  | returned answer => exact absurd rfl hrank
  | start =>
    simp only [stepEstablish]
    repeat' split
    all_goals rintro ⟨⟩
  | publish x =>
    simp only [stepEstablish]
    split <;> rintro ⟨⟩
  | abandon x => rintro ⟨⟩

theorem withinContext_ne (r : Reply) (x : Nat) (call : ContextCall) :
    (withinContext r s x call).2 ≠ .within x := by
  cases call with
  | connect args =>
    simp only [withinContext]
    split <;> rintro ⟨⟩
  | _ => rintro ⟨⟩

theorem stepContext_ne {max : Nat} {r : Reply} {h : Handle} {call : ContextCall}
    {place : ContextPlace} (hrank : (Caller.context h call place).rank ≠ 0)
    (hcontext : ∀ x, (Caller.context h call place).waitsContext s = some x →
      (s.context x).locked = false)
    (hcard : ∀ y, (Caller.context h call place).waitsCard = some y → (s.card y).locked = false) :
    (stepContext max r s h call place).2 ≠ place := by
  cases place with
  | returned answer => exact absurd rfl hrank
  | find =>
    simp only [stepContext]
    split <;> rintro ⟨⟩
  | lock x => simp [stepContext, hcontext x rfl]
  | within x =>
    simp only [stepContext]
    split
    · rintro ⟨⟩
    · exact withinContext_ne r x call
  | publish x y protocol =>
    simp only [stepContext]
    split <;> rintro ⟨⟩
  | lockCard x owned =>
    cases owned with
    | nil => rintro ⟨⟩
    | cons y owned => simp [stepContext, hcard y rfl]
  | _ => rintro ⟨⟩

theorem useCard_ne (r : Reply) (h : Handle) (y : Nat) (held : Option Nat) (call : CardCall) :
    (useCard r s h y held call).2 ≠ .use y held := by
  cases call with
  | transmit args =>
    simp only [useCard]
    repeat' split
    all_goals rintro ⟨⟩
  | status args =>
    simp only [useCard]
    repeat' split
    all_goals rintro ⟨⟩
  | disconnect disposition =>
    simp only [useCard]
    repeat' split
    all_goals rintro ⟨⟩

theorem stepCard_ne {r : Reply} {h : Handle} {call : CardCall} {place : CardPlace}
    (hrank : (Caller.card h call place).rank ≠ 0)
    (hcontext : ∀ x, (Caller.card h call place).waitsContext s = some x →
      (s.context x).locked = false)
    (hcard : ∀ y, (Caller.card h call place).waitsCard = some y → (s.card y).locked = false) :
    (stepCard r s h call place).2 ≠ place := by
  cases place with
  | returned answer => exact absurd rfl hrank
  | find =>
    simp only [stepCard]
    split <;> rintro ⟨⟩
  | lockOwner y => simp [stepCard, hcontext _ rfl]
  | checkOwner y x =>
    simp only [stepCard]
    split <;> rintro ⟨⟩
  | lock y held => simp [stepCard, hcard y rfl]
  | check y held =>
    simp only [stepCard]
    split <;> rintro ⟨⟩
  | use y held => exact useCard_ne r h y held call
  | unlock y held answer => cases held <;> rintro ⟨⟩
  | _ => rintro ⟨⟩

/-- A call that does not wait goes on. -/
theorem advance_ne {max : Nat} {r : Reply} (hrank : c.rank ≠ 0)
    (hcontext : ∀ x, c.waitsContext s = some x → (s.context x).locked = false)
    (hcard : ∀ y, c.waitsCard = some y → (s.card y).locked = false) :
    (advance max r s c).2 ≠ c := by
  cases c with
  | establish place => exact fun heq => stepEstablish_ne hrank (Caller.establish.inj heq)
  | context h call place =>
    exact fun heq => stepContext_ne hrank hcontext hcard (Caller.context.inj heq).2.2
  | card h call place =>
    exact fun heq => stepCard_ne hrank hcontext hcard (Caller.card.inj heq).2.2

/-- Somebody holds a mutex that is locked. -/
theorem exists_of_count {callers : List Caller} {holds : Caller → Bool}
    (h : callers.countP holds + 0 = true.toNat) : ∃ d ∈ callers, holds d = true :=
  List.countP_pos_iff.1 (by rw [Nat.add_zero] at h; rw [h]; exact Nat.one_pos)

/-- Some call can go on: one that waits does so, in the end, for one that does not. -/
theorem Inv.some_goes_on {callers : List Caller} (max : Nat) (h : Inv s callers) :
    (∀ c ∈ callers, c.rank = 0) ∨
      ∃ c ∈ callers, ∃ r, (advance max r s c).2.rank < c.rank := by
  have hnext : s.next ≠ 0 := by
    have := h.tables.next
    omega
  have hgo {c : Caller} (hc : c ∈ callers) (hrank : c.rank ≠ 0)
      (hcontext : ∀ x, c.waitsContext s = some x → (s.context x).locked = false)
      (hcard : ∀ y, c.waitsCard = some y → (s.card y).locked = false) :
      ∃ c ∈ callers, ∃ r, (advance max r s c).2.rank < c.rank :=
    ⟨c, hc, {}, ((advance_step {} hnext c).rank h.tables).resolve_left
      (advance_ne hrank hcontext hcard)⟩
  -- the holder of the mutex of a card waits for nothing
  have hheld {y : Nat} (hy : (s.card y).locked = true) :
      ∃ c ∈ callers, ∃ r, (advance max r s c).2.rank < c.rank := by
    have hcount := h.cardLocks y
    rw [hy] at hcount
    obtain ⟨d, hd, hholds⟩ := exists_of_count hcount
    obtain ⟨hcontext, hcard, hrank⟩ := Caller.waits_of_holdsCard (s := s) (beq_iff_eq.1 hholds)
    exact hgo hd hrank (by rw [hcontext]; exact nofun) (by rw [hcard]; exact nofun)
  have hfree {c : Caller} (hc : c ∈ callers) (hrank : c.rank ≠ 0)
      (hcontext : ∀ x, c.waitsContext s = some x → (s.context x).locked = false) :
      ∃ c ∈ callers, ∃ r, (advance max r s c).2.rank < c.rank := by
    by_cases hcard : ∀ y, c.waitsCard = some y → (s.card y).locked = false
    · exact hgo hc hrank hcontext hcard
    · simp only [not_forall, Bool.not_eq_false] at hcard
      obtain ⟨y, -, hy⟩ := hcard
      exact hheld hy
  by_cases hdone : ∀ c ∈ callers, c.rank = 0
  · exact .inl hdone
  right
  simp only [not_forall] at hdone
  obtain ⟨c, hc, hrank⟩ := hdone
  by_cases hcontext : ∀ x, c.waitsContext s = some x → (s.context x).locked = false
  · exact hfree hc hrank hcontext
  · simp only [not_forall, Bool.not_eq_false] at hcontext
    obtain ⟨x, -, hx⟩ := hcontext
    have hcount := h.contextLocks x
    rw [hx] at hcount
    obtain ⟨d, hd, hholds⟩ := exists_of_count hcount
    obtain ⟨hnone, hrank⟩ := Caller.waits_of_holdsContext (s := s) (beq_iff_eq.1 hholds)
    exact hfree hd hrank (by rw [hnone]; exact nofun)

/-- **The calls under way can always be brought to their end.** -/
theorem exists_returned (max : Nat) (moves : List (Lib.Move Call Reply)) :
    ∃ more, ∀ c ∈ (run max (moves ++ more)).callers, c.rank = 0 := by
  obtain ⟨more, hmore⟩ := Lib.Pool.run_to_end (I := Inv) begin Caller.rank
    (fun r _ _ _ _ h => h.next max r) (fun _ _ h => h.some_goes_on max) (run max moves)
    (run_inv max moves)
  refine ⟨more, fun c hc => hmore c ?_⟩
  rw [run, Lib.Pool.run, List.foldl_append] at hc
  exact hc

/-! ## The registry -/

/-- What the proxy keeps, as its log, its tables and its calls have it. -/
structure Kept (s : Shared) (callers : List Caller) : Prop where
  /-- No handle is given twice. -/
  handles : (callers.filterMap Caller.handle?).Nodup
  /-- Nothing is reached through a card that has been disconnected or passed, as each is that is
  closed. -/
  order : s.log.Pairwise After
  closings : ∀ h y, .gaveCard h y ∈ s.log → (s.card y).active = false →
    (∃ h', .disconnected h' y ∈ s.log) ∨ .passed y ∈ s.log
  disconnect : ∀ h disposition answer,
    .card h (.disconnect disposition) (.returned answer) ∈ callers → answer.result = .success →
      ∃ y, .disconnected h y ∈ s.log
  /-- A local client is opened once, and destroyed once when its card is closed. -/
  opened : ∀ y, s.log.count (.opened y) ≤ 1
  destroyed : ∀ y, s.log.count (.destroyed y) + (s.card y).hasLocal.toNat =
    s.log.count (.opened y)
  /-- A card with a client is not closed, and is in the registry or with a call that brings it there
  or closes it. -/
  placed : ∀ y, (s.card y).hasLocal = true →
    (s.card y).active = true ∧ (s.registered y ∨ ∃ c ∈ callers, c.keeps y)
  /-- A native context is released once, at the end of its context, with all cards closed. -/
  established : ∀ x, s.log.count (.established x) ≤ 1
  released : ∀ x, s.log.count (.releasedNative x) =
    if .retired x ∈ s.log then s.log.count (.established x) else 0
  closed : ∀ x, .retired x ∈ s.log → ∀ y, y < s.cardCount → (s.card y).owner = x →
    (s.card y).active = false
  /-- Every context is in the registry and live, or with the one call that ends it, or has ended. -/
  duties : ∀ x, x < s.contextCount →
    callers.countP (Caller.retiring x) + ((s.live x).toNat + (s.gone x).toNat) = 1
  release : ∀ h answer, .context h .releaseContext (.returned answer) ∈ callers →
    answer.result = .success → ∃ x, .gaveContext h x ∈ s.log ∧ .retired x ∈ s.log
  /-- The books of the memory of every context that is not released. -/
  memory : ∀ x, (s.context x).released = false → (s.context x).Accounted

theorem Inv.kept {callers : List Caller} (h : Inv s callers) : Kept s callers where
  handles := by
    rw [List.nodup_iff_count]
    intro q
    rw [List.count_filterMap]
    exact Lib.le_one_of_count (h.handles q)
  order := h.cards.order
  closings := h.closings
  disconnect _ disposition _ hc hresult := h.ok _ hc ⟨disposition, rfl⟩ hresult
  opened y := (h.clients.opened y).trans (Bool.toNat_le _)
  destroyed := h.clients.destroyed
  placed y hy := by
    have hactive := h.clients.active y hy
    refine ⟨hactive, h.placed y ?_ hactive⟩
    by_contra hlt
    rw [h.tables.freshCard y (Nat.le_of_not_lt hlt)] at hactive
    cases hactive
  established x := by
    rw [h.natives.established x]
    exact Bool.toNat_le _
  released x := by
    rw [h.natives.released x, h.natives.established x]
    by_cases hx : Event.retired x ∈ s.log
    · rw [if_pos hx, gone_eq_true.2 hx, Bool.true_and]
    · rw [if_neg hx, Bool.eq_false_iff.2 (mt gone_eq_true.1 hx), Bool.false_and, Bool.toNat_false]
  closed x hx := h.closed x (gone_eq_true.2 hx)
  duties x hx := by
    rw [h.duties x, decide_eq_true hx, Bool.toNat_true]
  release _ _ hc hresult := h.ok _ hc rfl hresult
  memory := h.memory

/-- **The registry of the proxy**, in every interleaving of its calls. -/
theorem registry_kept (max : Nat) (moves : List (Lib.Move Call Reply)) :
    Kept (run max moves).shared (run max moves).callers := (run_inv max moves).kept

/-- A context and a local card: connected, disconnected, and the context released. -/
def session : List (Lib.Move Call Reply) :=
  let reader : Text := [65]
  let r : Reply := { readers := .ok [⟨"q3u4", reader⟩] }
  let call (op : Call) (t : Nat) : List (Lib.Move Call Reply) :=
    .enter op :: List.replicate 9 (.step t r)
  call (.establishContext true false .user) 0 ++
    call (.context 0x50580000 (.connect ⟨some reader, true, .shared, true, false⟩)) 1 ++
    call (.card 0x50580001 (.disconnect .leave)) 2 ++
    call (.context 0x50580000 .releaseContext) 3

theorem registry_kept_session :
    (∃ y, .disconnected 0x50580001 y ∈ (run 0xFFFFFFFF session).shared.log) ∧
      ∃ x, .gaveContext 0x50580000 x ∈ (run 0xFFFFFFFF session).shared.log ∧
        .retired x ∈ (run 0xFFFFFFFF session).shared.log :=
  ⟨(registry_kept 0xFFFFFFFF session).disconnect 0x50580001 .leave { result := .success }
      (by decide +kernel) rfl,
    (registry_kept 0xFFFFFFFF session).release 0x50580000 { result := .success }
      (by decide +kernel) rfl⟩

end Px4.Winscard
