import Px4.Usb.Stream

/-!
# The buffers of a stream

Every buffer of a stream is in one place, a slot or a ready block (`StreamState.Wf`), and the one
whose event was returned stays there until the next `wait_stream` (`StreamState.Held`).

* `onTransfer_kept`, `dispatch_kept` — callbacks, also nested ones, leave a returned event alone.
* `Transport.Wf.waitEnter`, `Transport.Wf.waitResume` — an event that `wait_stream` returns is held.
* `DrainStep` — what a thread that cancels or drains can do; only freeing the stream gives a held
  buffer up.
* `Transport.startStream_refused` — a start is refused while a buffer is held.
-/

namespace Px4.Usb

namespace StreamState

/-- The slots and the ready blocks have different buffers, and the slots that libusb may call back
or that were delivered are among those of the stream. -/
structure Wf (st : StreamState) : Prop where
  slots : ∀ i < st.count, ∀ j < st.count, (st.slots i).buffer = (st.slots j).buffer → i = j
  ready : ∀ i < st.count, ∀ j < st.count, (st.ready i).buffer = (st.ready j).buffer → i = j
  apart : ∀ i < st.count, ∀ j < st.count, (st.slots i).buffer ≠ (st.ready j).buffer
  submitted : ∀ i, (st.slots i).status = .submitted → i < st.count
  delivered : ∀ i, st.delivered = some i → i < st.count

/-- The buffer of the event that was returned last: in a delivered slot, which has completed, or in
a delivered ready block. -/
def Held (st : StreamState) (buffer : Nat) : Prop :=
  (∃ i < st.count, st.delivered = some i ∧ (st.slots i).status = .completed ∧
      (st.slots i).buffer = buffer) ∨
    ∃ i < st.count, st.deliveredReady = some i ∧ (st.ready i).buffer = buffer

/-- What callbacks leave as it was. -/
structure Kept (st st' : StreamState) : Prop where
  count : st'.count = st.count
  delivered : st'.delivered = st.delivered
  deliveredReady : st'.deliveredReady = st.deliveredReady
  slot : ∀ i, st.delivered = some i → (st.slots i).status = .completed → st'.slots i = st.slots i
  block : ∀ i, st.deliveredReady = some i → st'.ready i = st.ready i
  wf : st.Wf → st'.Wf

section

variable {st st' st'' : StreamState} {buffer index block : Nat}

theorem Kept.refl (st : StreamState) : Kept st st :=
  ⟨rfl, rfl, rfl, fun _ _ _ => rfl, fun _ _ => rfl, id⟩

theorem Kept.trans (h : Kept st st') (h' : Kept st' st'') : Kept st st'' where
  count := h'.count.trans h.count
  delivered := h'.delivered.trans h.delivered
  deliveredReady := h'.deliveredReady.trans h.deliveredReady
  slot := by
    intro i hd hc
    have heq := h.slot i hd hc
    rw [← heq]
    exact h'.slot i (h.delivered.trans hd) (by rw [heq]; exact hc)
  block := fun i hd => (h'.block i (h.deliveredReady.trans hd)).trans (h.block i hd)
  wf := fun hw => h'.wf (h.wf hw)

theorem Kept.held (h : Kept st st') (hh : st.Held buffer) : st'.Held buffer := by
  rcases hh with ⟨i, hi, hd, hc, hb⟩ | ⟨i, hi, hd, hb⟩
  · have heq := h.slot i hd hc
    exact .inl ⟨i, h.count ▸ hi, h.delivered.trans hd, by rw [heq]; exact hc,
      by rw [heq]; exact hb⟩
  · exact .inr ⟨i, h.count ▸ hi, h.deliveredReady.trans hd, by rw [h.block i hd]; exact hb⟩

/-! ## Changes of one slot -/

/-- What changes one slot, and ready blocks that are not delivered. -/
structure Changed (index : Nat) (st st' : StreamState) : Prop where
  count : st'.count = st.count
  delivered : st'.delivered = st.delivered
  deliveredReady : st'.deliveredReady = st.deliveredReady
  slot : ∀ i, i ≠ index → st'.slots i = st.slots i
  block : ∀ i, st.deliveredReady = some i → st'.ready i = st.ready i
  wf : index < st.count → st.Wf → st'.Wf

theorem Changed.trans (h : Changed index st st') (h' : Changed index st' st'') :
    Changed index st st'' where
  count := h'.count.trans h.count
  delivered := h'.delivered.trans h.delivered
  deliveredReady := h'.deliveredReady.trans h.deliveredReady
  slot := fun i hi => (h'.slot i hi).trans (h.slot i hi)
  block := fun i hd => (h'.block i (h.deliveredReady.trans hd)).trans (h.block i hd)
  wf := fun hi hw => h'.wf (h.count ▸ hi) (h.wf hi hw)

/-- A change of a submitted slot, then callbacks. -/
theorem Changed.kept (h : Changed index st st') (hs : (st.slots index).status = .submitted)
    (h' : Kept st' st'') : Kept st st'' where
  count := h'.count.trans h.count
  delivered := h'.delivered.trans h.delivered
  deliveredReady := h'.deliveredReady.trans h.deliveredReady
  slot := by
    intro i hd hc
    have hne : i ≠ index := by
      intro heq
      rw [heq, hs] at hc
      cases hc
    have heq := h.slot i hne
    rw [← heq]
    exact h'.slot i (h.delivered.trans hd) (by rw [heq]; exact hc)
  block := fun i hd => (h'.block i (h.deliveredReady.trans hd)).trans (h.block i hd)
  wf := fun hw => h'.wf (h.wf (hw.submitted index hs) hw)

theorem Changed.done (h : Changed index st st') (hs : (st.slots index).status = .submitted) :
    Kept st st' := h.kept hs (Kept.refl st')

/-- Well-formedness looks at the buffers, the statuses, the count and the delivered slot only. -/
theorem Wf.congr (h : st.Wf) (hs : ∀ i, (st'.slots i).buffer = (st.slots i).buffer)
    (hr : ∀ i, (st'.ready i).buffer = (st.ready i).buffer) (hc : st'.count = st.count)
    (hsub : ∀ i, (st'.slots i).status = .submitted → i < st.count)
    (hd : ∀ i, st'.delivered = some i → i < st.count) : st'.Wf where
  slots := by simpa only [hs, hc] using h.slots
  ready := by simpa only [hr, hc] using h.ready
  apart := by simpa only [hs, hr, hc] using h.apart
  submitted := by simpa only [hc] using hsub
  delivered := by simpa only [hc] using hd

theorem changed_setSlot (st : StreamState) {slot : Slot}
    (hb : slot.buffer = (st.slots index).buffer) : Changed index st (st.setSlot index slot) where
  count := rfl
  delivered := rfl
  deliveredReady := rfl
  slot := fun i hne => Function.update_of_ne hne _ _
  block := fun _ _ => rfl
  wf := by
    intro hlt h
    refine h.congr (fun i => ?_) (fun _ => rfl) rfl (fun i hi => ?_) h.delivered
    · by_cases heq : i = index
      · subst heq
        simpa [StreamState.setSlot] using hb
      · simp [StreamState.setSlot, heq]
    · by_cases heq : i = index
      · rw [heq]; exact hlt
      · exact h.submitted i (by simpa [StreamState.setSlot, heq] using hi)

/-- A change of fields that concern no buffer. -/
theorem changed_fields (hs : st'.slots = st.slots) (hr : st'.ready = st.ready)
    (hc : st'.count = st.count) (hd : st'.delivered = st.delivered)
    (hdr : st'.deliveredReady = st.deliveredReady) : Changed index st st' where
  count := hc
  delivered := hd
  deliveredReady := hdr
  slot := fun i _ => by rw [hs]
  block := fun i _ => by rw [hr]
  wf := fun _ h => h.congr (fun _ => by rw [hs]) (fun _ => by rw [hr]) hc
    (by rw [hs]; exact h.submitted) (by rw [hd]; exact h.delivered)

theorem changed_markSubmitted (st : StreamState) (index : Nat) :
    Changed index st (st.markSubmitted index) := by
  have h : Changed index st (st.setSlot index { st.slots index with
      status := .submitted, submissionOrder := st.nextSubmissionOrder }) := changed_setSlot st rfl
  exact h.trans (changed_fields rfl rfl rfl rfl rfl)

/-- The buffers of a slot and a ready block change places. -/
theorem changed_handOver (hblock : block < st.count) (hfree : st.deliveredReady ≠ some block) :
    Changed index st (st.handOver index block) where
  count := rfl
  delivered := rfl
  deliveredReady := rfl
  slot := fun i hne => Function.update_of_ne hne _ _
  block := by
    intro i hd
    have hne : i ≠ block := by
      intro heq
      exact hfree (heq ▸ hd)
    exact Function.update_of_ne hne _ _
  wf := by
    intro hlt h
    have hslot (i : Nat) : ((st.handOver index block).slots i).buffer =
        if i = index then (st.ready block).buffer else (st.slots i).buffer := by
      by_cases heq : i = index
      · subst heq
        simp [handOver, setSlot, setReady]
      · simp [handOver, setSlot, setReady, heq]
    have hready (i : Nat) : ((st.handOver index block).ready i).buffer =
        if i = block then (st.slots index).buffer else (st.ready i).buffer := by
      by_cases heq : i = block
      · subst heq
        simp [handOver, setSlot, setReady]
      · simp [handOver, setSlot, setReady, heq]
    refine ⟨fun i hi j hj hb => ?_, fun i hi j hj hb => ?_, fun i hi j hj hb => ?_,
      fun i hi => ?_, h.delivered⟩
    · rw [hslot, hslot] at hb
      split at hb <;> split at hb
      · omega
      · exact absurd hb.symm (h.apart j hj block hblock)
      · exact absurd hb (h.apart i hi block hblock)
      · exact h.slots i hi j hj hb
    · rw [hready, hready] at hb
      split at hb <;> split at hb
      · omega
      · exact absurd hb (h.apart index hlt j hj)
      · exact absurd hb.symm (h.apart index hlt i hi)
      · exact h.ready i hi j hj hb
    · rw [hslot, hready] at hb
      split at hb <;> split at hb
      · exact h.apart index hlt block hblock hb.symm
      · rename_i hne
        exact hne (h.ready j hj block hblock hb.symm)
      · rename_i hne _
        exact hne (h.slots i hi index hlt hb)
      · exact h.apart i hi j hj hb
    · by_cases heq : i = index
      · rw [heq]; exact hlt
      · refine h.submitted i ?_
        simpa [handOver, setSlot, setReady, heq] using hi

theorem freeReady_spec (h : st.freeReady = some block) :
    block < st.count ∧ st.deliveredReady ≠ some block := by
  have hmem := List.mem_of_find?_eq_some h
  have hfree := List.find?_some h
  simp only [Bool.and_eq_true, bne_iff_ne] at hfree
  exact ⟨List.mem_range.mp hmem, hfree.2⟩

/-! ## Callbacks -/

variable {code : Int} {inner : StreamState → StreamState}

/-- Submitting a slot that may change. -/
theorem submitSlot_kept (st : StreamState) (code : Int) (index : Nat)
    (hinner : ∀ st, Kept st (inner st)) :
    ∃ st₁, Changed index st st₁ ∧ (st₁.slots index).status = .submitted ∧
      Kept st₁ (st.submitSlot code inner index) := by
  refine ⟨st.markSubmitted index, changed_markSubmitted st index, ?_, ?_⟩
  · simp [markSubmitted, setSlot]
  · unfold submitSlot
    split
    · exact hinner _
    · have h : Changed index (st.markSubmitted index) { st.markSubmitted index with
          outstanding := (st.markSubmitted index).outstanding - 1 } :=
        changed_fields rfl rfl rfl rfl rfl
      exact h.done (by simp [markSubmitted, setSlot])

/-- A failed submission leaves the slot as it was marked. -/
theorem submitSlot_failed (inner : StreamState → StreamState) (hcode : code ≠ 0) :
    Changed index st (st.submitSlot code inner index) := by
  simp only [submitSlot, if_neg hcode]
  exact (changed_markSubmitted st index).trans (changed_fields rfl rfl rfl rfl rfl)

/-- The submission from inside a callback. -/
theorem replenish_kept {st₀ : StreamState} (hinner : ∀ st, Kept st (inner st))
    (h : Changed index st₀ st) (hs : (st₀.slots index).status = .submitted) :
    Kept st₀ (st.replenish code inner index) := by
  unfold replenish
  split
  · obtain ⟨st₁, h₁, -, hkept⟩ := submitSlot_kept st code index hinner
    exact (h.trans h₁).kept hs hkept
  · rename_i hcode
    have hset : Changed index (st.submitSlot code inner index)
        ((st.submitSlot code inner index).setSlot index
          { (st.submitSlot code inner index).slots index with status := .allocated }) :=
      changed_setSlot _ rfl
    refine Changed.done ((h.trans (submitSlot_failed inner hcode)).trans (hset.trans ?_)) hs
    exact changed_fields rfl rfl rfl rfl rfl

end

end StreamState

open StreamState

section

variable {index transfer : Nat} {status : TransferStatus} {actualLength code : Int}
  {inner : StreamState → StreamState}

theorem Slot.finish_buffer (slot : Slot) (genuine stopping : Bool) (transferSize : Nat) :
    (slot.finish genuine stopping transferSize status actualLength).buffer = slot.buffer := by
  unfold Slot.finish
  split
  · rfl
  · cases status with
    | completed => simp only; split <;> rfl
    | _ => rfl

/-- **A callback** leaves a returned event alone. -/
theorem onTransfer_kept (hinner : ∀ st, Kept st (inner st)) (st : StreamState) :
    Kept st (onTransfer code inner index transfer status actualLength st) := by
  simp only [onTransfer]
  split
  · exact Kept.refl st
  rename_i hs
  have hs : (st.slots index).status = .submitted := by simpa using hs
  have hcount : Changed index st { st with outstanding := st.outstanding - 1 } :=
    changed_fields rfl rfl rfl rfl rfl
  generalize ((st.slots index).transfer == some transfer && st.outstanding != 0) = genuine
  have hfinish (slotStatus : SlotStatus) :
      Changed index st (({ st with outstanding := st.outstanding - 1 } : StreamState).setSlot index
        { (st.slots index).finish genuine st.stopping st.transferSize status actualLength with
          status := slotStatus }) :=
    hcount.trans (changed_setSlot _ (Slot.finish_buffer _ _ _ _))
  split
  · exact (hfinish .allocated).done hs
  split
  · refine Changed.done ((hfinish .completed).trans ?_) hs
    exact changed_fields rfl rfl rfl rfl rfl
  split
  · exact (hfinish .completed).done hs
  · rename_i block hblock
    split at hblock
    · cases hblock
    obtain ⟨hlt, hfree⟩ := freeReady_spec hblock
    exact replenish_kept hinner ((hfinish .completed).trans (changed_handOver hlt hfree)) hs

/-- **Nested callbacks** leave a returned event alone. -/
theorem dispatch_kept (d : Dispatch) : ∀ st, Kept st (dispatch d st) := by
  induction d with
  | done => exact Kept.refl
  | callback index transfer status actualLength code inner rest ihInner ihRest =>
    intro st
    exact (onTransfer_kept ihInner st).trans (ihRest _)

end

/-! ## `wait_stream` -/

namespace StreamState

variable {st : StreamState}

theorem Wf.releaseReady (h : st.Wf) : st.releaseReady.Wf := by
  unfold StreamState.releaseReady
  split
  · rename_i index _
    refine h.congr (fun _ => rfl) (fun i => ?_) rfl h.submitted h.delivered
    by_cases heq : i = index
    · subst heq
      simp [setReady]
    · simp [setReady, heq]
  · exact h

theorem Wf.notDelivered (h : st.Wf) : ({ st with delivered := none } : StreamState).Wf :=
  h.congr (fun _ => rfl) (fun _ => rfl) rfl h.submitted nofun

theorem Wf.release (h : st.Wf) (submit : Submit) : (st.release submit).1.Wf := by
  unfold StreamState.release
  split
  · exact h.releaseReady
  rename_i index hdelivered
  have hlt := h.delivered index hdelivered
  split
  · exact h
  split
  · obtain ⟨st₁, hchanged, -, hkept⟩ :=
      submitSlot_kept st submit.code index (dispatch_kept submit.inner)
    exact (hkept.wf (hchanged.wf hlt h)).notDelivered.releaseReady
  · rename_i hcode
    have hfailed : Changed index st (st.submitSlot submit.code _ index) :=
      submitSlot_failed (dispatch submit.inner) hcode
    refine Wf.notDelivered (Changed.wf (hfailed.trans ?_) hlt h)
    exact changed_setSlot _ rfl

/-- **The completion whose turn it is**: an event that is returned is held. -/
theorem completed_spec (h : st.Wf) :
    st.completed.1.Wf ∧
      ∀ event, st.completed.2 = .ok event → st.completed.1.Held event.buffer := by
  have hnext (delivered deliveredReady : Option Nat) (valid : Bool)
      (hd : ∀ i, delivered = some i → i < st.count) :
      ({ st with
        nextDeliveryOrder := st.nextDeliveryOrder + 1
        delivered := delivered
        deliveredReady := deliveredReady
        deferredErrorValid := valid } : StreamState).Wf :=
    h.congr (fun _ => rfl) (fun _ => rfl) rfl h.submitted hd
  unfold completed
  split
  · rename_i index hfind
    have hlt : index < st.count := List.mem_range.mp (List.mem_of_find?_eq_some hfind)
    have hstatus := List.find?_some hfind
    simp only [Bool.and_eq_true, beq_iff_eq] at hstatus
    split
    · exact ⟨hnext _ _ _ h.delivered, nofun⟩
    · refine ⟨hnext _ _ _ fun i hi => by cases hi; exact hlt, fun event hevent => ?_⟩
      cases hevent
      exact .inl ⟨index, hlt, rfl, hstatus.1, rfl⟩
  split
  · rename_i index hfind
    have hlt : index < st.count := List.mem_range.mp (List.mem_of_find?_eq_some hfind)
    split
    · exact ⟨hnext _ _ _ h.delivered, nofun⟩
    · refine ⟨hnext _ _ _ h.delivered, fun event hevent => ?_⟩
      cases hevent
      exact .inr ⟨index, hlt, rfl, rfl⟩
  split
  · exact ⟨hnext _ _ _ h.delivered, nofun⟩
  · exact ⟨h, nofun⟩

end StreamState

namespace Transport

/-- A stream is active and well formed; one that was leaked is the last. -/
structure Wf (t : Transport) : Prop where
  stream : ∀ st, t.stream = some st → st.Wf ∧ t.active = true
  leaked : ∀ st, t.leaked = some st → st.Wf ∧ t.stream = none ∧ t.abandoned = true

/-- A buffer is held by the transport's stream, or by the leaked one. -/
def Holds (t : Transport) (buffer : Nat) : Prop :=
  ∃ st, (t.stream = some st ∨ t.leaked = some st) ∧ st.Held buffer

section

variable {t : Transport} {buffer : Nat}

theorem Wf.leaked_none (h : t.Wf) {st : StreamState} (hst : t.stream = some st) :
    t.leaked = none := by
  cases hl : t.leaked with
  | none => rfl
  | some st' =>
    obtain ⟨-, hnone, -⟩ := h.leaked st' hl
    rw [hst] at hnone
    cases hnone

theorem Wf.setStream (h : t.Wf) {st st' : StreamState} (hst : t.stream = some st)
    (hwf : st'.Wf) : ({ t with stream := some st' } : Transport).Wf := by
  obtain ⟨-, hactive⟩ := h.stream st hst
  constructor
  · intro _ heq
    cases heq
    exact ⟨hwf, hactive⟩
  · intro st'' heq
    have hnone := (h.leaked_none hst).symm.trans heq
    cases hnone

theorem kept_completion (c : Completion) (st : StreamState) :
    st.Kept (Usb.onTransfer c.submit.code (dispatch c.submit.inner) c.index c.transfer c.status
      c.actualLength st) :=
  onTransfer_kept (dispatch_kept c.submit.inner) st

theorem Wf.onTransfer (h : t.Wf) (c : Completion) : (t.onTransfer c).Wf := by
  cases hst : t.stream with
  | some st =>
    simp only [Transport.onTransfer, hst]
    exact h.setStream hst ((kept_completion c st).wf (h.stream st hst).1)
  | none =>
    simp only [Transport.onTransfer, hst]
    refine ⟨nofun, fun st' hst' => ?_⟩
    obtain ⟨st, hl, heq⟩ := Option.map_eq_some_iff.mp hst'
    obtain ⟨hwf, -, hab⟩ := h.leaked st hl
    exact ⟨heq ▸ (kept_completion c st).wf hwf, rfl, hab⟩

/-- **A callback** keeps what is held. -/
theorem Wf.onTransfer_holds (h : t.Wf) (c : Completion) (hh : t.Holds buffer) :
    (t.onTransfer c).Holds buffer := by
  obtain ⟨st, hst, hheld⟩ := hh
  have hheld' := (kept_completion c st).held hheld
  rcases hst with hst | hst
  · simp only [Transport.onTransfer, hst]
    exact ⟨_, .inl rfl, hheld'⟩
  · simp only [Transport.onTransfer, (h.leaked st hst).2.1]
    exact ⟨_, .inr (by simp [hst]), hheld'⟩

/-- **`wait_stream` up to its event call**: an event it returns is held. -/
theorem Wf.waitEnter (h : t.Wf) (submit : Submit) :
    (t.waitEnter submit).1.Wf ∧ ∀ event, (t.waitEnter submit).2 = some (.ok event) →
      (t.waitEnter submit).1.Holds event.buffer := by
  unfold Transport.waitEnter
  split
  · rename_i st _ hst
    split
    · exact ⟨h, nofun⟩
    have hrelease := (h.stream st hst).1.release submit
    split
    · rename_i st' e heq
      rw [heq] at hrelease
      exact ⟨h.setStream hst hrelease, nofun⟩
    · rename_i st' heq
      rw [heq] at hrelease
      obtain ⟨hwf, hheld⟩ := completed_spec hrelease
      split
      · rename_i st'' event heq'
        rw [heq'] at hwf hheld
        refine ⟨h.setStream hst hwf, fun event' hevent => ?_⟩
        cases hevent
        exact ⟨st'', .inl rfl, hheld event rfl⟩
      · rename_i st'' e heq'
        rw [heq'] at hwf
        refine ⟨h.setStream hst hwf, fun event hevent => ?_⟩
        split at hevent <;> cases hevent
  · exact ⟨h, nofun⟩

/-- **`wait_stream` after its event call**: an event it returns is held. -/
theorem Wf.waitResume (h : t.Wf) (eventResult : Int) :
    (t.waitResume eventResult).1.Wf ∧ ∀ event, (t.waitResume eventResult).2 = .ok event →
      (t.waitResume eventResult).1.Holds event.buffer := by
  unfold Transport.waitResume
  split
  · exact ⟨h, nofun⟩
  split
  · rename_i st _ hst
    split
    · exact ⟨h, nofun⟩
    obtain ⟨hwf, hheld⟩ := completed_spec (h.stream st hst).1
    split
    · rename_i st' event heq
      rw [heq] at hwf hheld
      refine ⟨h.setStream hst hwf, fun event' hevent => ?_⟩
      cases hevent
      exact ⟨st', .inl rfl, hheld event rfl⟩
    · rename_i st' e heq
      rw [heq] at hwf
      exact ⟨h.setStream hst hwf, nofun⟩
  · exact ⟨h, nofun⟩

/-! ## Cancelling and draining -/

/-- What a thread that comes to the drain loop can do: there is no stream, it goes on, it leaks the
stream, or it frees it. -/
inductive DrainStep (t t' : Transport) : Prop
  | idle (hst : t.stream = none)
      (heq : t'.stream = none ∧ t'.leaked = t.leaked ∧ t'.abandoned = t.abandoned)
  | again {st st' : StreamState} (hst : t.stream = some st) (hout : st.outstanding ≠ 0)
      (hkept : st.Kept st') (heq : t' = { t with stream := some st' })
  | leak {st st' : StreamState} (hst : t.stream = some st) (hout : st.outstanding ≠ 0)
      (hkept : st.Kept st')
      (heq : t'.stream = none ∧ t'.leaked = some st' ∧ t'.abandoned = true)
  | free {st : StreamState} (hst : t.stream = some st) (hout : st.outstanding = 0)
      (heq : t'.stream = none ∧ t'.leaked = t.leaked ∧ t'.abandoned = t.abandoned)

theorem drainCheck_cases (t : Transport) (env : CancelEnv) (d : Drain) :
    DrainStep t (t.drainCheck env d).1 := by
  cases hst : t.stream with
  | none => exact .idle hst (by simp [drainCheck, hst])
  | some st =>
    have heq : t = { t with stream := some st } := by rw [← hst]
    simp only [drainCheck, hst]
    split
    · rename_i hout
      exact .again hst hout.1 (Kept.refl st) heq
    split
    · rename_i hout
      exact .leak hst hout (Kept.refl st) ⟨rfl, rfl, rfl⟩
    · rename_i hout
      exact .free hst (by simpa using hout) ⟨rfl, rfl, rfl⟩

/-- A stream that begins to stop. -/
theorem kept_stopping (st : StreamState) : st.Kept { st with stopping := true } :=
  ⟨rfl, rfl, rfl, fun _ _ _ => rfl, fun _ _ => rfl,
    fun h => h.congr (fun _ => rfl) (fun _ => rfl) rfl h.submitted h.delivered⟩

theorem cancelAndDrain_cases (t : Transport) (env : CancelEnv) :
    DrainStep t (t.cancelAndDrain env).1 := by
  cases hst : t.stream with
  | none => exact .idle hst (by simp [cancelAndDrain, hst])
  | some st =>
    simp only [cancelAndDrain, hst]
    have hkept := kept_stopping st
    cases drainCheck_cases { t with stream := some { st with stopping := true } } env
        { firstError := cancelError env st } with
    | idle hnone heq => cases hnone
    | again hst' hout hkept' heq =>
      cases hst'
      exact .again hst hout (hkept.trans hkept') heq
    | leak hst' hout hkept' heq =>
      cases hst'
      exact .leak hst hout (hkept.trans hkept') heq
    | free hst' hout heq =>
      cases hst'
      exact .free hst hout heq

theorem cancelStream_cases (h : t.Wf) (env : CancelEnv) :
    DrainStep t (t.cancelStream env).1 := by
  unfold cancelStream
  split
  · rename_i hactive
    refine .idle ?_ ⟨?_, rfl, rfl⟩ <;>
    · cases hst : t.stream with
      | none => rfl
      | some st => simp [(h.stream st hst).2] at hactive
  · exact cancelAndDrain_cases t env

theorem DrainStep.wf {t' : Transport} (hd : DrainStep t t') (h : t.Wf) : t'.Wf := by
  have hgone (heq : t'.stream = none ∧ t'.leaked = t.leaked ∧ t'.abandoned = t.abandoned) :
      t'.Wf := by
    constructor
    · intro st hst
      rw [heq.1] at hst; cases hst
    · intro st hst
      obtain ⟨hwf, -, hab⟩ := h.leaked st (heq.2.1.symm.trans hst)
      exact ⟨hwf, heq.1, heq.2.2.trans hab⟩
  cases hd with
  | idle hst heq => exact hgone heq
  | again hst hout hkept heq =>
    rw [heq]
    exact h.setStream hst (hkept.wf (h.stream _ hst).1)
  | leak hst hout hkept heq =>
    constructor
    · intro st hst'
      rw [heq.1] at hst'; cases hst'
    · intro st hst'
      rw [heq.2.1] at hst'
      cases hst'
      exact ⟨hkept.wf (h.stream _ hst).1, heq.1, heq.2.2⟩
  | free hst hout heq => exact hgone heq

/-- **A drain** that finds a transfer outstanding keeps what is held. -/
theorem DrainStep.holds {t' : Transport} (hd : DrainStep t t') (h : t.Wf)
    (hout : ∀ st, t.stream = some st → st.outstanding ≠ 0) (hh : t.Holds buffer) :
    t'.Holds buffer := by
  obtain ⟨st, hst, hheld⟩ := hh
  have hlive {st' : StreamState} (hst' : t.stream = some st') : st = st' := by
    rcases hst with hst | hst
    · rw [hst'] at hst; cases hst; rfl
    · rw [h.leaked_none hst'] at hst; cases hst
  cases hd with
  | idle hst' heq =>
    rcases hst with hst | hst
    · rw [hst'] at hst; cases hst
    · exact ⟨st, .inr (heq.2.1.trans hst), hheld⟩
  | again hst' _ hkept heq =>
    cases hlive hst'
    exact ⟨_, .inl (by rw [heq]), hkept.held hheld⟩
  | leak hst' _ hkept heq =>
    cases hlive hst'
    exact ⟨_, .inr heq.2.1, hkept.held hheld⟩
  | free hst' hzero heq => exact absurd hzero (hout _ hst')

/-! ## Starting -/

theorem create_wf (base count : Nat) (env : StartEnv) : (StreamState.create base count env).Wf where
  slots := fun i _ j _ h => by simp only [StreamState.create] at h; omega
  ready := fun i _ j _ h => by simp only [StreamState.create] at h; omega
  apart := fun i hi j _ h => by simp only [StreamState.create] at h hi; omega
  submitted := nofun
  delivered := nofun

theorem startSlots_wf (env : StartEnv) : ∀ (indices : List Nat) {st : StreamState}, st.Wf →
    (∀ i ∈ indices, i < st.count) → (startSlots env st indices).1.Wf := by
  intro indices
  induction indices with
  | nil => exact fun h _ => h
  | cons index rest ih =>
    intro st h hlt
    have hindex := hlt index (List.mem_cons_self ..)
    have htransfer : Changed index st (st.setTransfer index (env.transfer index)) :=
      changed_setSlot st rfl
    simp only [startSlots]
    split
    · exact htransfer.wf hindex h
    split
    · rename_i hcode
      have hfailed := htransfer.trans
        (submitSlot_failed (dispatch (env.submit index).inner) hcode)
      refine Changed.wf (hfailed.trans ?_) hindex h
      exact changed_setSlot _ rfl
    · obtain ⟨st₁, hchanged, -, hkept⟩ := submitSlot_kept
        (st.setTransfer index (env.transfer index)) (env.submit index).code index
        (dispatch_kept (env.submit index).inner)
      have hboth := htransfer.trans hchanged
      refine ih (hkept.wf (hboth.wf hindex h)) fun i hi => ?_
      rw [hkept.count, hboth.count]
      exact hlt i (List.mem_cons_of_mem index hi)

theorem Wf.startFailed (h : t.Wf) (env : StartEnv) (e : Error) : (t.startFailed env e).1.Wf := by
  have hwf := (cancelAndDrain_cases t env.cancel).wf h
  unfold Transport.startFailed
  split <;> rename_i heq <;> rw [heq] at hwf <;> exact hwf

theorem Wf.startStream (h : t.Wf) (config : StreamConfig) (env : StartEnv) :
    (t.startStream config env).1.Wf := by
  simp only [Transport.startStream]
  split
  · exact h
  split
  · exact h
  split
  · exact h
  split
  · exact h
  rename_i hab _ _
  have hnew (st : StreamState) (hwf : st.Wf) : ({ t with
      stream := some st, active := true
      nextBuffer := t.nextBuffer + 2 * config.transferCount } : Transport).Wf := by
    refine ⟨fun _ heq => by cases heq; exact ⟨hwf, rfl⟩, fun st' hst' => ?_⟩
    simp [(h.leaked st' hst').2.2] at hab
  have hcreate := create_wf t.nextBuffer config.transferCount env
  split
  · exact (hnew _ hcreate).startFailed env _
  split
  · exact (hnew _ hcreate).startFailed env _
  have hslots := startSlots_wf env (List.range config.transferCount) hcreate
    fun i hi => List.mem_range.mp hi
  split <;> rename_i heq <;> rw [heq] at hslots
  · exact hnew _ hslots
  · exact (hnew _ hslots).startFailed env _

/-- **A start is refused** while a buffer is held: the stream is active, or the transport has been
abandoned with it. -/
theorem startStream_refused (h : t.Wf) (hh : t.Holds buffer) (config : StreamConfig)
    (env : StartEnv) : ∃ e, t.startStream config env = (t, .ended (.error e)) := by
  obtain ⟨st, hst, -⟩ := hh
  unfold Transport.startStream
  split
  · exact ⟨_, rfl⟩
  split
  · exact ⟨_, rfl⟩
  rename_i hab
  rcases hst with hst | hst
  · rw [(h.stream st hst).2, if_pos rfl]
    exact ⟨_, rfl⟩
  · simp [(h.leaked st hst).2.2] at hab

end

end Transport

end Px4.Usb
