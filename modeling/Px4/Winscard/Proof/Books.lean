import Px4.Winscard.Proof.Laws

/-!
# What the log tells of natives, cards, clients and memory

`Natives`: a native context is established and released once. `Cards`: nothing is reached through a
card that is closed. `Clients`: a local client is opened and destroyed once. `Memory`: the books of
every context that is not released. Every step keeps each of them.
-/

namespace Px4.Winscard

variable {s s' : Shared} {c c' : Caller}

theorem count_record (e e' : Event) :
    (s.record e).log.count e' = s.log.count e' + (decide (e = e')).toNat := by
  rw [Shared.record, List.count_cons]
  by_cases he : e = e' <;> simp [he]

theorem count_recordIf (p : Bool) (e e' : Event) :
    (s.recordIf p e).log.count e' = s.log.count e' + (p && decide (e = e')).toNat := by
  cases p with
  | false => rfl
  | true => exact count_record e e'

theorem count_setContext (x : Nat) (k : Context) (e : Event) :
    (s.setContext x k).log.count e = s.log.count e +
      (((s.context x).native == 0 && k.native != 0) && decide (.established x = e)).toNat :=
  count_recordIf _ _ _

/-! ## Native contexts -/

/-- A native context is established once, and released once when its context comes to its end. -/
structure Natives (s : Shared) : Prop where
  established : ∀ x, s.log.count (.established x) = ((s.context x).native != 0).toNat
  released : ∀ x, s.log.count (.releasedNative x) =
    (s.gone x && (s.context x).native != 0).toNat

/-- The event is none of those of a native context. -/
def Event.foreign : Event → Bool
  | .established _ | .releasedNative _ | .retired _ => false
  | _ => true

theorem Natives.of_log (hn : Natives s)
    (hcontext : ∀ x, (s'.context x).native = (s.context x).native)
    (hlog : ∀ e, e.foreign = false → s'.log.count e = s.log.count e) : Natives s' := by
  have hgone (x : Nat) : s'.gone x = s.gone x :=
    gone_congr (by rw [← List.count_pos_iff, hlog _ rfl, List.count_pos_iff])
  refine ⟨fun x => ?_, fun x => ?_⟩
  · rw [hlog _ rfl, hcontext, hn.established]
  · rw [hlog _ rfl, hcontext, hgone, hn.released]

theorem Natives.record (hn : Natives s) {e : Event} (he : e.foreign = true) :
    Natives (s.record e) := by
  refine hn.of_log (fun _ => rfl) fun e' he' => ?_
  have hne : e ≠ e' := by
    rintro rfl
    rw [he] at he'
    cases he'
  simp [count_record, hne]

theorem Natives.recordIf (hn : Natives s) (p : Bool) {e : Event} (he : e.foreign = true) :
    Natives (s.recordIf p e) := by
  cases p with
  | false => exact hn
  | true => exact hn.record he

theorem Natives.setContext (hn : Natives s) {x : Nat} {k : Context}
    (hk : (s.context x).native ≠ 0 → k.native = (s.context x).native)
    (hgone : k.native ≠ (s.context x).native → s.gone x = false) : Natives (s.setContext x k) := by
  have hkeeps : ((s.context x).native == 0 && k.native != 0).toNat +
      ((s.context x).native != 0).toNat = (k.native != 0).toNat := by
    by_cases hzero : (s.context x).native = 0
    · simp [hzero]
    · simp [hzero, hk hzero]
  refine ⟨fun q => ?_, fun q => ?_⟩
  · have hold := hn.established q
    rw [count_setContext, Shared.context_setContext]
    by_cases hq : q = x
    · subst hq
      rw [Function.update_self, decide_eq_true rfl, Bool.and_true]
      omega
    · rw [Function.update_of_ne hq]
      simpa [Ne.symm hq] using hold
  · have hold := hn.released q
    rw [count_setContext, Shared.context_setContext, gone_setContext,
      decide_eq_false (by exact nofun), Bool.and_false]
    by_cases hq : q = x
    · subst hq
      rw [Function.update_self]
      by_cases hsame : k.native = (s.context q).native
      · rw [hsame]
        exact hold
      · rw [hgone hsame] at hold ⊢
        exact hold
    · rw [Function.update_of_ne hq]
      exact hold

theorem Natives.retire (hn : Natives s) {x : Nat} (hopen : s.gone x = false) :
    Natives (s.retire x) := by
  refine ⟨fun q => ?_, fun q => ?_⟩
  · rw [Shared.context_retire, Shared.retire, count_record, count_recordIf]
    simpa using hn.established q
  · rw [Shared.context_retire, gone_retire, Shared.retire, count_record, count_recordIf]
    have hold := hn.released q
    by_cases hq : q = x
    · subst hq
      rw [hopen] at hold ⊢
      simpa using hold
    · rw [beq_false_of_ne hq]
      simpa [Ne.symm hq] using hold

theorem Natives.newContext (hn : Natives s) (ht : Tables s) : Natives s.newContext.1 := by
  refine hn.of_log (fun x => ?_) fun _ _ => rfl
  by_cases hx : x = s.contextCount
  · subst hx
    rw [context_newContext, ht.freshContext _ (Nat.le_refl _)]
  · simp [Shared.newContext, hx]

theorem Natives.deactivate (hn : Natives s) (y : Nat) : Natives (s.deactivate y) := by
  have hset : Natives (s.setCard y { s.card y with active := false, hasLocal := false }) :=
    hn.of_log (fun _ => rfl) fun _ _ => rfl
  exact hset.recordIf _ (by rfl)

theorem Natives.newCard (hn : Natives s) (k : Card) : Natives (s.newCard k).1 := by
  have hmade : Natives { s with
      card := Function.update s.card s.cardCount k, cardCount := s.cardCount + 1 } :=
    hn.of_log (fun _ => rfl) fun _ _ => rfl
  exact hmade.recordIf _ (by rfl)

/-- **Every step keeps the books of the native contexts.** -/
theorem Step.natives (h : Step s c s' c') (ht : Tables s) (hn : Natives s) (hc : c.Ok s)
    (hgone : ∀ x, s.gone x = true → x < s.contextCount)
    (hopen : ∀ x, c.retires = some x → s.gone x = false)
    (hlive : ∀ x, s.live x = true → s.gone x = false) : Natives s' := by
  have hnew : s.newContext.1.gone s.contextCount = false := by
    rw [Bool.eq_false_iff]
    exact fun h => Nat.lt_irrefl _ (hgone _ h)
  cases h with
  | drop =>
    have hfresh := hn.newContext ht
    refine ⟨fun x => ?_, fun x => ?_⟩
    · rw [count_record]
      exact hfresh.established x
    · -- the native context of the new context is none
      have hold := hfresh.released x
      have hlog : (s.newContext.1.record (.retired s.contextCount)).gone x =
          (s.newContext.1.gone x || x == s.contextCount) := by
        rw [Bool.eq_iff_iff, Bool.or_eq_true, gone_eq_true, gone_eq_true, beq_iff_eq]
        simp [Shared.record, or_comm]
      rw [count_record, hlog]
      by_cases hx : x = s.contextCount
      · subst hx
        simpa [Shared.record, Shared.newContext] using hold
      · rw [beq_false_of_ne hx]
        simpa [Shared.record] using hold
  | make =>
    refine (hn.newContext ht).setContext (fun hnative => ?_) fun _ => hnew
    rw [context_newContext] at hnative
    exact absurd rfl hnative
  | @publishContext x _ =>
    have hset : Natives { s with next := s.next + 1, contexts := s.contexts ++ [(s.next, x)] } :=
      hn.of_log (fun _ => rfl) fun _ _ => rfl
    exact hset.record (by rfl)
  | @publishCard _ _ _ y _ _ =>
    have hset : Natives { s with next := s.next + 1, cards := s.cards ++ [(s.next, y)] } :=
      hn.of_log (fun _ => rfl) fun _ _ => rfl
    exact hset.record (by rfl)
  | abandonContext => exact hn.retire (hopen _ rfl)
  | releaseNative => exact hn.retire (hopen _ rfl)
  | @inside q call x k answer hkeeps hreleased =>
    refine hn.setContext hkeeps.native fun hchanged => ?_
    cases hmark : (s.context x).released with
    | true => exact absurd (congrArg Context.native (hreleased hmark)) hchanged
    | false => exact hlive x (ht.live_of_given hc hmark)
  | connect hmark hkeeps =>
    exact (hn.setContext hkeeps.native fun _ => hlive _ (ht.live_of_given hc hmark)).newCard _
  | lockContext | unlockContext | lockOwner | unlockOwner | mark =>
    exact hn.setContext (fun _ => rfl) fun hchanged => absurd rfl hchanged
  | free _ _ hnative =>
    exact hn.setContext (fun _ => hnative) fun hchanged => absurd hnative hchanged
  | use hfills =>
    exact (hn.record (by rfl)).setContext (fun _ => hfills.native) fun hchanged =>
      absurd hfills.native hchanged
  | abandonCard => exact hn.deactivate _
  | @pass _ _ _ y _ =>
    exact ((hn.deactivate y).record (e := .passed y) rfl).of_log (fun _ => rfl) fun _ _ => rfl
  | close => exact ((hn.record (by rfl)).deactivate _).record (by rfl)
  | _ => exact hn.of_log (fun _ => rfl) fun _ _ => rfl

/-! ## Cards -/

/-- Nothing is reached through a card that was disconnected or passed before, nor through its
handle. -/
def After (later earlier : Event) : Prop :=
  ∀ h y, later = .reached h y → (∀ h', earlier ≠ .disconnected h' y) ∧
    (∀ y', earlier ≠ .disconnected h y') ∧ earlier ≠ .passed y

/-- A card that was disconnected or passed is closed, and nothing is reached through it. -/
structure Cards (s : Shared) : Prop where
  disconnected : ∀ h y, .disconnected h y ∈ s.log →
    .gaveCard h y ∈ s.log ∧ (s.card y).active = false
  passed : ∀ y, .passed y ∈ s.log → (∃ h, .gaveCard h y ∈ s.log) ∧ (s.card y).active = false
  order : s.log.Pairwise After

/-- The event is none of those of a card that is used or closed. -/
def Event.unused : Event → Bool
  | .reached _ _ | .disconnected _ _ | .passed _ => false
  | _ => true

theorem Cards.of_active (hk : Cards s) (hlog : s'.log = s.log)
    (hactive : ∀ h y, .gaveCard h y ∈ s.log → (s.card y).active = false →
      (s'.card y).active = false) : Cards s' := by
  refine ⟨fun h y hmem => ?_, fun y hmem => ?_, by rw [hlog]; exact hk.order⟩
  · rw [hlog] at hmem ⊢
    obtain ⟨hgave, hinactive⟩ := hk.disconnected h y hmem
    exact ⟨hgave, hactive h y hgave hinactive⟩
  · rw [hlog] at hmem ⊢
    obtain ⟨⟨h, hgave⟩, hinactive⟩ := hk.passed y hmem
    exact ⟨⟨h, hgave⟩, hactive h y hgave hinactive⟩

/-- An event that is allowed after all before it. -/
theorem Cards.record (hk : Cards s) {e : Event} (hafter : ∀ e' ∈ s.log, After e e')
    (hdisconnected : ∀ h y, e = .disconnected h y →
      .gaveCard h y ∈ s.log ∧ (s.card y).active = false)
    (hpassed : ∀ y, e = .passed y → (∃ h, .gaveCard h y ∈ s.log) ∧ (s.card y).active = false) :
    Cards (s.record e) := by
  refine ⟨fun h y hmem => ?_, fun y hmem => ?_, List.pairwise_cons.2 ⟨hafter, hk.order⟩⟩
  · rcases List.mem_cons.1 hmem with heq | hmem
    · exact (hdisconnected h y heq.symm).imp_left (List.mem_cons_of_mem _)
    · exact (hk.disconnected h y hmem).imp_left (List.mem_cons_of_mem _)
  · rcases List.mem_cons.1 hmem with heq | hmem
    · exact (hpassed y heq.symm).imp_left (Exists.imp fun _ => List.mem_cons_of_mem _)
    · exact (hk.passed y hmem).imp_left (Exists.imp fun _ => List.mem_cons_of_mem _)

theorem Cards.recordIf (hk : Cards s) (p : Bool) {e : Event} (he : e.unused = true) :
    Cards (s.recordIf p e) := by
  cases p with
  | false => exact hk
  | true =>
    refine hk.record (fun e' _ h y heq => ?_) (fun h y heq => ?_) (fun y heq => ?_) <;>
    · rw [heq] at he
      cases he

theorem Cards.reach (hk : Cards s) (ht : Tables s) {h : Handle} {y : Nat}
    (hgave : .gaveCard h y ∈ s.log) (hactive : (s.card y).active = true) :
    Cards (s.record (.reached h y)) := by
  have hnot : (s.card y).active ≠ false := by
    rw [hactive]
    exact nofun
  refine hk.record (fun e he q z heq => ?_) nofun nofun
  cases heq
  refine ⟨fun h' hclosed => ?_, fun y' hclosed => ?_, fun hclosed => ?_⟩
  · rw [hclosed] at he
    exact hnot (hk.disconnected h' y he).2
  · -- the handle has always been that of this card
    rw [hclosed] at he
    obtain ⟨hgave', hinactive⟩ := hk.disconnected h y' he
    rw [ht.cardOf h y' y hgave' hgave] at hinactive
    exact hnot hinactive
  · rw [hclosed] at he
    exact hnot (hk.passed y he).2

theorem Cards.setContext (hk : Cards s) (x : Nat) (k : Context) : Cards (s.setContext x k) := by
  have hset : Cards { s with context := Function.update s.context x k } :=
    hk.of_active rfl fun _ _ _ => id
  exact hset.recordIf _ (by rfl)

theorem active_lockCard (y : Nat) (locked : Bool) (z : Nat) :
    ((s.lockCard y locked).card z).active = (s.card z).active := by
  by_cases hz : z = y
  · subst hz
    simp [Shared.lockCard, Shared.setCard]
  · simp [Shared.lockCard, Shared.setCard, hz]

theorem Cards.lockCard (hk : Cards s) (y : Nat) (locked : Bool) : Cards (s.lockCard y locked) :=
  hk.of_active rfl fun _ z _ hinactive => (active_lockCard y locked z).trans hinactive

theorem active_deactivate {y z : Nat} (hz : z ≠ y) :
    ((s.deactivate y).card z).active = (s.card z).active := by
  simp [Shared.deactivate, Shared.setCard, hz]

theorem inactive_deactivate (y : Nat) : ((s.deactivate y).card y).active = false := by
  simp [Shared.deactivate, Shared.setCard]

theorem Cards.deactivate (hk : Cards s) (y : Nat) : Cards (s.deactivate y) := by
  have hset : Cards (s.setCard y { s.card y with active := false, hasLocal := false }) := by
    refine hk.of_active rfl fun h z _ hinactive => ?_
    by_cases hz : z = y
    · subst hz
      simp [Shared.setCard]
    · simpa [Shared.setCard, hz] using hinactive
  exact hset.recordIf _ (by rfl)

theorem Cards.newCard (hk : Cards s) (ht : Tables s) (k : Card) : Cards (s.newCard k).1 := by
  have hmade : Cards { s with
      card := Function.update s.card s.cardCount k, cardCount := s.cardCount + 1 } := by
    refine hk.of_active rfl fun h z hgave hinactive => ?_
    simpa [Function.update_of_ne (Nat.ne_of_lt (ht.gaveCard h z hgave).2)] using hinactive
  exact hmade.recordIf _ (by rfl)

theorem Cards.retire (hk : Cards s) (x : Nat) : Cards (s.retire x) :=
  (hk.recordIf _ (e := .releasedNative x) rfl).recordIf true (e := .retired x) rfl

/-- **Every step keeps the order of what is done with a card.** -/
theorem Step.cards (h : Step s c s' c') (ht : Tables s) (hk : Cards s) (hc : c.Ok s) :
    Cards s' := by
  have hnew : Cards s.newContext.1 := hk.of_active rfl fun _ _ _ => id
  cases h with
  | drop => exact hnew.recordIf true (e := .retired s.contextCount) rfl
  | make => exact hnew.setContext _ _
  | @publishContext x _ =>
    have hset : Cards { s with next := s.next + 1, contexts := s.contexts ++ [(s.next, x)] } :=
      hk.of_active rfl fun _ _ _ => id
    exact hset.recordIf true (e := .gaveContext s.next x) rfl
  | @publishCard _ _ _ y _ _ =>
    have hset : Cards { s with next := s.next + 1, cards := s.cards ++ [(s.next, y)] } :=
      hk.of_active rfl fun _ _ _ => id
    exact hset.recordIf true (e := .gaveCard s.next y) rfl
  | abandonContext | releaseNative => exact hk.retire _
  | lockContext | unlockContext | lockOwner | unlockOwner | mark | inside | free =>
    exact hk.setContext _ _
  | @connect _ _ x _ k _ hmark hkeeps =>
    have hmade := ht.setContext (ht.gaveContext _ _ hc).2.1 fun htrue => hkeeps.released.trans htrue
    exact (hk.setContext x k).newCard hmade _
  | abandonCard => exact hk.deactivate _
  | lockOwned | lockCard | unlockCard => exact hk.lockCard _ _
  | @pass _ _ _ y _ =>
    have hhanded := (hc.2.2 y List.mem_cons_self).2
    refine Cards.lockCard ((hk.deactivate y).record (e := .passed y) (fun _ _ p z heq => ?_)
      (fun p z heq => ?_) fun z heq => ?_) _ _
    · cases heq
    · cases heq
    · cases heq
      refine ⟨hhanded.imp fun q hq => ?_, inactive_deactivate y⟩
      simpa [Shared.deactivate, Shared.setCard] using hq
  | use => exact (hk.reach ht hc.1 hc.2.2).setContext _ _
  | @close q _ y _ _ =>
    refine ((hk.reach ht hc.1 hc.2.2).deactivate y).record (fun _ _ p z heq => ?_)
      (fun p z heq => ?_) fun z heq => ?_
    · cases heq
    · cases heq
      refine ⟨?_, inactive_deactivate y⟩
      simpa [Shared.deactivate, Shared.setCard, Shared.record] using hc.1
    · cases heq
  | eraseContext | eraseCard => exact hk.of_active rfl fun _ _ _ => id
  | _ => exact hk

/-- A card that had a handle and is closed was disconnected or passed. -/
def Closings (s : Shared) : Prop :=
  ∀ h y, .gaveCard h y ∈ s.log → (s.card y).active = false →
    (∃ h', .disconnected h' y ∈ s.log) ∨ .passed y ∈ s.log

/-- **Every step that closes a card is in the log.** -/
theorem Step.closings (h : Step s c s' c') (ht : Tables s) (hs : Closings s) (hc : c.Ok s) :
    Closings s' := by
  have hchange := h.change hc
  have hsame {q : Handle} {y : Nat} (hgave : .gaveCard q y ∈ s.log)
      (hinactive : (s.card y).active = false) :
      (∃ h', .disconnected h' y ∈ s'.log) ∨ .passed y ∈ s'.log :=
    (hs q y hgave hinactive).imp (Exists.imp fun _ => hchange.log _) (hchange.log _)
  intro q y hgave hinactive
  cases h with
  | @connect _ _ x _ k card =>
    have hold : .gaveCard q y ∈ s.log := by
      simpa [Shared.newCard, Shared.setContext] using hgave
    have hne : y ≠ s.cardCount := Nat.ne_of_lt (ht.gaveCard q y hold).2
    refine hsame hold ?_
    simpa [Shared.newCard, hne] using hinactive
  | publishCard =>
    rcases List.mem_cons.1 hgave with heq | hold
    · cases heq
      exact absurd (hinactive.symm.trans hc.2.1.active) Bool.false_ne_true
    · exact hsame hold hinactive
  | @abandonCard _ _ _ z _ =>
    have hold : .gaveCard q y ∈ s.log := by
      simpa [Shared.deactivate, Shared.setCard] using hgave
    have hne : y ≠ z := by
      rintro rfl
      exact hc.2.1.unhanded q hold
    rw [active_deactivate hne] at hinactive
    exact hsame hold hinactive
  | @pass _ _ _ z _ =>
    by_cases hz : y = z
    · rw [hz]
      exact .inr List.mem_cons_self
    · refine hsame (q := q) ?_ ?_
      · simpa [Shared.lockCard, Shared.deactivate, Shared.record, Shared.setCard] using hgave
      · rw [active_lockCard] at hinactive
        exact (active_deactivate hz).symm.trans hinactive
  | @close p _ z _ _ =>
    by_cases hz : y = z
    · rw [hz]
      exact .inl ⟨p, List.mem_cons_self⟩
    · have hold := active_deactivate (s := s.record (.reached p z)) hz
      refine hsame (q := q) ?_ (hold.symm.trans hinactive)
      simpa [Shared.deactivate, Shared.record, Shared.setCard] using hgave
  | lockOwned | lockCard | unlockCard =>
    rw [active_lockCard] at hinactive
    exact hsame hgave hinactive
  | eraseContext | eraseCard => exact hsame hgave hinactive
  | _ =>
    refine hsame (q := q) ?_ ?_
    · simpa [Shared.record, Shared.setContext, Shared.lockContext, Shared.newContext,
        Shared.retire] using hgave
    · simpa [Shared.record, Shared.lockContext, Shared.newContext] using hinactive

/-! ## Local clients -/

/-- A local client is opened once, and is destroyed when its card is closed. -/
structure Clients (s : Shared) : Prop where
  destroyed : ∀ y, s.log.count (.destroyed y) + (s.card y).hasLocal.toNat =
    s.log.count (.opened y)
  opened : ∀ y, s.log.count (.opened y) ≤ (decide (y < s.cardCount)).toNat
  active : ∀ y, (s.card y).hasLocal = true → (s.card y).active = true

/-- The event is none of those of a local client. -/
def Event.noClient : Event → Bool
  | .opened _ | .destroyed _ => false
  | _ => true

theorem Clients.of_eq (hl : Clients s) (hlog : ∀ e, e.noClient = false →
    s'.log.count e = s.log.count e) (hcount : s.cardCount ≤ s'.cardCount)
    (hlocal : ∀ y, (s'.card y).hasLocal = (s.card y).hasLocal)
    (hactive : ∀ y, (s'.card y).active = (s.card y).active) : Clients s' := by
  refine ⟨fun y => ?_, fun y => ?_, fun y hy => ?_⟩
  · rw [hlog _ rfl, hlog _ rfl, hlocal]
    exact hl.destroyed y
  · rw [hlog _ rfl]
    refine (hl.opened y).trans ?_
    by_cases hy : y < s.cardCount
    · simp [hy, Nat.lt_of_lt_of_le hy hcount]
    · simp [hy]
  · rw [hlocal] at hy
    rw [hactive]
    exact hl.active y hy

theorem Clients.recordIf (hl : Clients s) (p : Bool) {e : Event} (he : e.noClient = true) :
    Clients (s.recordIf p e) := by
  refine hl.of_eq (fun e' he' => ?_) (by simp) (by simp) (by simp)
  have hne : e ≠ e' := by
    rintro rfl
    rw [he] at he'
    cases he'
  simp [count_recordIf, hne]

theorem Clients.record (hl : Clients s) {e : Event} (he : e.noClient = true) :
    Clients (s.record e) := hl.recordIf true he

theorem Clients.setContext (hl : Clients s) (x : Nat) (k : Context) :
    Clients (s.setContext x k) := by
  have hset : Clients { s with context := Function.update s.context x k } :=
    hl.of_eq (fun _ _ => rfl) (Nat.le_refl _) (fun _ => rfl) fun _ => rfl
  exact hset.recordIf _ (by rfl)

theorem Clients.retire (hl : Clients s) (x : Nat) : Clients (s.retire x) :=
  (hl.recordIf _ (e := .releasedNative x) rfl).record (e := .retired x) rfl

theorem Clients.lockCard (hl : Clients s) (y : Nat) (locked : Bool) :
    Clients (s.lockCard y locked) := by
  refine hl.of_eq (fun _ _ => rfl) (Nat.le_refl _) (fun z => ?_) fun z => ?_ <;>
  · by_cases hz : z = y
    · subst hz
      simp [Shared.lockCard, Shared.setCard]
    · simp [Shared.lockCard, Shared.setCard, hz]

theorem Clients.deactivate (hl : Clients s) (y : Nat) : Clients (s.deactivate y) := by
  have hcount (e : Event) : (s.deactivate y).log.count e =
      s.log.count e + ((s.card y).hasLocal && decide (.destroyed y = e)).toNat :=
    count_recordIf _ _ _
  have hcard (z : Nat) : ((s.deactivate y).card z).hasLocal =
      ((s.card z).hasLocal && decide (z ≠ y)) ∧
      (z ≠ y → ((s.deactivate y).card z).active = (s.card z).active) := by
    by_cases hz : z = y
    · subst hz
      simp [Shared.deactivate, Shared.setCard]
    · simp [Shared.deactivate, Shared.setCard, hz]
  refine ⟨fun z => ?_, fun z => ?_, fun z hz => ?_⟩
  · have hold := hl.destroyed z
    rw [hcount, hcount, (hcard z).1]
    by_cases hz : z = y
    · subst hz
      simp
      omega
    · simpa [hz, Ne.symm hz] using hold
  · rw [hcount]
    simpa [Shared.deactivate, Shared.setCard] using hl.opened z
  · rw [(hcard z).1, Bool.and_eq_true, decide_eq_true_eq] at hz
    rw [(hcard z).2 hz.2]
    exact hl.active z hz.1

theorem Clients.newCard (hl : Clients s) {k : Card} (hactive : k.active = true) :
    Clients (s.newCard k).1 := by
  have hcount (e : Event) : (s.newCard k).1.log.count e =
      s.log.count e + (k.hasLocal && decide (.opened s.cardCount = e)).toNat := count_recordIf _ _ _
  have hcard : (s.newCard k).1.card = Function.update s.card s.cardCount k :=
    Shared.card_recordIf _ _ _
  have hnone : s.log.count (.opened s.cardCount) = 0 := by
    have h := hl.opened s.cardCount
    simpa using h
  refine ⟨fun z => ?_, fun z => ?_, fun z hz => ?_⟩
  · have hold := hl.destroyed z
    rw [hcount, hcount, hcard]
    by_cases hz : z = s.cardCount
    · subst hz
      rw [hnone] at hold ⊢
      simp
      omega
    · simpa [hz, Ne.symm hz] using hold
  · have hold := hl.opened z
    have hmade : (s.newCard k).1.cardCount = s.cardCount + 1 := Shared.cardCount_recordIf _ _ _
    rw [hcount, hmade]
    by_cases hz : z = s.cardCount
    · subst hz
      rw [hnone]
      cases k.hasLocal <;> simp
    · have hlt : z < s.cardCount + 1 ↔ z < s.cardCount := by
        rw [Nat.lt_succ_iff_lt_or_eq]
        exact or_iff_left hz
      simpa [hlt, Ne.symm hz] using hold
  · rw [hcard] at hz ⊢
    by_cases hz' : z = s.cardCount
    · subst hz'
      simpa using hactive
    · rw [Function.update_of_ne hz'] at hz ⊢
      exact hl.active z hz

/-- **Every step keeps the books of the local clients.** -/
theorem Step.clients (h : Step s c s' c') (hl : Clients s) : Clients s' := by
  have hnew : Clients s.newContext.1 :=
    hl.of_eq (fun _ _ => rfl) (Nat.le_refl _) (fun _ => rfl) fun _ => rfl
  cases h with
  | drop => exact hnew.record (e := .retired s.contextCount) rfl
  | make => exact hnew.setContext _ _
  | @publishContext x _ =>
    have hset : Clients { s with next := s.next + 1, contexts := s.contexts ++ [(s.next, x)] } :=
      hl.of_eq (fun _ _ => rfl) (Nat.le_refl _) (fun _ => rfl) fun _ => rfl
    exact hset.record (e := .gaveContext s.next x) rfl
  | @publishCard _ _ _ y _ _ =>
    have hset : Clients { s with next := s.next + 1, cards := s.cards ++ [(s.next, y)] } :=
      hl.of_eq (fun _ _ => rfl) (Nat.le_refl _) (fun _ => rfl) fun _ => rfl
    exact hset.record (e := .gaveCard s.next y) rfl
  | abandonContext | releaseNative => exact hl.retire _
  | lockContext | unlockContext | lockOwner | unlockOwner | mark | inside | free =>
    exact hl.setContext _ _
  | @connect _ _ x _ k _ _ _ _ hactive => exact (hl.setContext x k).newCard hactive
  | abandonCard => exact hl.deactivate _
  | lockOwned | lockCard | unlockCard => exact hl.lockCard _ _
  | @pass _ _ _ y _ => exact ((hl.deactivate y).record (e := .passed y) rfl).lockCard _ _
  | @use q _ y _ _ _ => exact (hl.record (e := .reached q y) rfl).setContext _ _
  | @close q _ y _ _ =>
    exact ((hl.record (e := .reached q y) rfl).deactivate y).record (e := .disconnected q y) rfl
  | eraseContext | eraseCard =>
    exact hl.of_eq (fun _ _ => rfl) (Nat.le_refl _) (fun _ => rfl) fun _ => rfl
  | _ => exact hl

/-! ## Memory -/

/-- The books of every context that is not released. -/
def Memory (s : Shared) : Prop :=
  ∀ x, (s.context x).released = false → (s.context x).Accounted

theorem Memory.setContext (hm : Memory s) {x : Nat} {k : Context}
    (hk : k.released = false → k.Accounted) : Memory (s.setContext x k) := by
  intro q hq
  rw [Shared.context_setContext] at hq ⊢
  by_cases hqx : q = x
  · subst hqx
    rw [Function.update_self] at hq ⊢
    exact hk hq
  · rw [Function.update_of_ne hqx] at hq ⊢
    exact hm q hq

theorem Memory.of_context (hm : Memory s) (h : s'.context = s.context) : Memory s' := by
  intro x hx
  rw [h] at hx ⊢
  exact hm x hx

theorem Memory.newContext (hm : Memory s) : Memory s.newContext.1 := by
  intro x hx
  by_cases hnew : x = s.contextCount
  · subst hnew
    rw [context_newContext]
    exact Context.accounted_empty
  · have hsame : s.newContext.1.context x = s.context x := Function.update_of_ne hnew _ _
    rw [hsame] at hx ⊢
    exact hm x hx

/-- **Every step keeps the books of the memory.** -/
theorem Step.memory (h : Step s c s' c') (hm : Memory s) (hc : c.Ok s) : Memory s' := by
  have hlock {x : Nat} (locked : Bool) : Memory (s.lockContext x locked) :=
    hm.setContext fun hx => ⟨(hm x hx).nodup, (hm x hx).sum, (hm x hx).bytes, (hm x hx).blocks⟩
  cases h with
  | drop => exact hm.newContext.of_context rfl
  | make =>
    exact hm.newContext.setContext fun _ => ⟨List.nodup_nil, rfl, Nat.zero_le _, Nat.zero_le _⟩
  | lockContext | unlockContext | lockOwner | unlockOwner => exact hlock _
  | inside hkeeps =>
    exact hm.setContext fun hx => hkeeps.accounted (hm _ (hkeeps.released.symm.trans hx))
  | connect _ hkeeps =>
    exact (hm.setContext fun hx =>
      hkeeps.accounted (hm _ (hkeeps.released.symm.trans hx))).of_context
      (Shared.context_newCard _ _)
  | mark => exact hm.setContext nofun
  | free _ hreleased =>
    -- the allocations of a released context are no longer accounted for
    refine hm.setContext fun hx => ?_
    rw [hreleased, hc.2.released] at hx
    cases hx
  | @use q _ y _ _ _ hfills =>
    have hreached : Memory (s.record (.reached q y)) := hm.of_context rfl
    exact hreached.setContext fun hx => hfills.accounted (hm _ (hfills.released.symm.trans hx))
  | abandonContext | releaseNative | abandonCard => exact hm.of_context (by simp)
  | pass => exact hm.of_context (by simp [Shared.lockCard, Shared.setCard, Shared.record])
  | close => exact hm.of_context (by simp [Shared.record])
  | _ => exact hm.of_context rfl

/-! ## The start -/

theorem live_init (x : Nat) : Shared.live {} x = false := rfl

theorem gone_init (x : Nat) : Shared.gone {} x = false := by
  rw [Bool.eq_false_iff]
  intro h
  cases gone_eq_true.1 h

theorem natives_init : Natives {} := ⟨fun _ => rfl, fun x => by rw [gone_init]; rfl⟩

theorem cards_init : Cards {} := ⟨nofun, nofun, .nil⟩

theorem closings_init : Closings {} := nofun

theorem clients_init : Clients {} := ⟨fun _ => rfl, fun _ => Nat.zero_le _, nofun⟩

theorem memory_init : Memory {} := fun _ _ => Context.accounted_empty

end Px4.Winscard
