import Px4.Usb.Proof.Order

/-!
# A stream delivers in order and exactly once

* `exactly_once`: what a reader is owed, if no submission fails with `LIBUSB_ERROR_NOT_FOUND`, the
  error by which `wait_stream` knows that there is no completion; `exactly_once_lost` is a run in
  which one does.
* `not_overtaken_iff`: the errors overtake no data exactly when `wait_stream` does not fail to
  submit a slot again while data wait; `error_overtakes` is a run in which it does.
-/

namespace Px4.Usb

open StreamState

/-! ## The reader -/

namespace Reader

/-- What the reader has been given is what came of the turns so far; an error that is
`LIBUSB_ERROR_NOT_FOUND` has been dropped. -/
structure Inv (r : Reader) : Prop where
  placed : r.traced.Inv
  settled : r.traced.st.Settled
  held : ∀ event, r.held = some event → r.traced.st.Held event.buffer
  turns : r.turns.map (·.1) = (List.range r.traced.st.nextDeliveryOrder).filter
    fun k => r.traced.outcomes k ≠ some (.error .notFound)
  results : ∀ turn ∈ r.turns, r.traced.outcomes turn.1 = some turn.2
  told : ∀ k < r.traced.st.nextDeliveryOrder, r.traced.outcomes k ≠ none

variable {r : Reader}

theorem Inv.grows (h : Inv r) {traced : Traced} (hinv : traced.Inv) (hsettled : traced.st.Settled)
    (hgrows : Traced.Grows r.traced traced) (held : Option StreamEvent)
    (hheld : ∀ event, held = some event → traced.st.Held event.buffer) (waiting : Bool) :
    Inv { r with traced, held, waiting } := by
  refine ⟨hinv, hsettled, hheld, ?_, fun turn hturn => ?_, fun k hk => ?_⟩
  · refine h.turns.trans ?_
    show _ = (List.range traced.st.nextDeliveryOrder).filter _
    rw [hgrows.turn]
    refine List.filter_congr fun k hk => ?_
    obtain ⟨result, hresult⟩ := Option.ne_none_iff_exists'.1 (h.told k (List.mem_range.1 hk))
    rw [hresult, hgrows.outcomes k result hresult]
  · exact hgrows.outcomes _ _ (h.results turn hturn)
  · obtain ⟨result, hresult⟩ := Option.ne_none_iff_exists'.1 (h.told k (hgrows.turn ▸ hk))
    show traced.outcomes k ≠ none
    rw [hgrows.outcomes k result hresult]
    nofun

/-- **A call of `completed`** returns nothing, or what came of the turn that it takes. -/
theorem Inv.take (h : Inv r) : Inv r.take.1 := by
  have hspec := completed_spec h.placed.wf
  unfold Reader.take
  rcases Placed.completed_cases h.placed with heq |
    ⟨d, dr, valid, result, heq, ho, hplaced, hd, hdr⟩
  · rw [heq]
    exact ⟨h.placed, h.settled, nofun, h.turns, h.results, h.told⟩
  rw [heq] at hspec ⊢
  have hsettled : (Placed.advanceTo r.traced.st d dr valid).Settled := by
    refine ⟨fun i hi => ?_, fun i hi => ?_⟩
    · rcases hd i hi with hold | ⟨hs, horder⟩
      · exact ⟨(h.settled.slot i hold).1, Nat.lt_succ_of_lt (h.settled.slot i hold).2⟩
      · exact ⟨hs, Nat.lt_succ_of_le horder.le⟩
    · rcases hdr i hi with hold | horder
      · exact Nat.lt_succ_of_lt (h.settled.block i hold)
      · exact Nat.lt_succ_of_le horder.le
  have hheld : ∀ event, result.toOption = some event →
      (Placed.advanceTo r.traced.st d dr valid).Held event.buffer := by
    intro event hevent
    refine hspec.2 event ?_
    cases result with
    | ok event' => cases hevent; rfl
    | error e => cases hevent
  have htold : ∀ k < r.traced.st.nextDeliveryOrder + 1, r.traced.outcomes k ≠ none := by
    intro k hk
    rcases Nat.lt_succ_iff_lt_or_eq.1 hk with hlt | rfl
    · exact h.told k hlt
    · rw [ho]; nofun
  have hrange : (List.range (r.traced.st.nextDeliveryOrder + 1)).filter
      (fun k => decide (r.traced.outcomes k ≠ some (.error .notFound))) =
      r.turns.map (·.1) ++ if result = .error .notFound then []
      else [r.traced.st.nextDeliveryOrder] := by
    rw [List.range_succ, List.filter_append, ← h.turns, List.filter_singleton, ho]
    by_cases hr : result = .error .notFound
    · simp [hr]
    · simp [hr]
  dsimp only
  split
  next hr =>
    rw [if_pos hr, List.append_nil] at hrange
    exact ⟨hplaced, hsettled, hheld, hrange.symm, h.results, htold⟩
  next hr =>
    rw [if_neg hr] at hrange
    have hturns :
        (r.returned ++ [Return.turn r.traced.st.nextDeliveryOrder result]).filterMap turn? =
        r.turns ++ [(r.traced.st.nextDeliveryOrder, result)] := by
      rw [List.filterMap_append]
      rfl
    refine ⟨hplaced, hsettled, hheld, ?_, fun turn hturn => ?_, htold⟩
    · show List.map _ (List.filterMap turn? _) = _
      rw [hturns, List.map_append]
      exact hrange.symm
    · change turn ∈ List.filterMap turn? _ at hturn
      rw [hturns, List.mem_append, List.mem_singleton] at hturn
      rcases hturn with hold | rfl
      · exact h.results turn hold
      · exact ho

/-- A failed resubmission is returned at once. -/
theorem Inv.resubmitted (h : Inv r) (order : Nat) (e : Error) :
    Inv { r with returned := r.returned ++ [.resubmit order e] } := by
  have hturns : ({ r with returned := r.returned ++ [.resubmit order e] } :
    Reader).turns = r.turns := by
    simp [Reader.turns, turn?]
  exact ⟨h.placed, h.settled, h.held, by rw [hturns]; exact h.turns,
    by rw [hturns]; exact h.results,
    h.told⟩

theorem Inv.wait (h : Inv r) (submit : Submit) : Inv (r.wait submit).1 := by
  unfold Reader.wait
  have hcases := Traced.release_cases h.placed h.settled submit
  generalize r.traced.release submit = result at hcases
  cases hcases with
  | goes hok hinv hgrows hsettled =>
    have hreleased := h.grows hinv hsettled hgrows none nofun r.waiting
    have htake := hreleased.take
    dsimp only
    split
    · exact ⟨htake.placed, htake.settled, htake.held, htake.turns, htake.results, htake.told⟩
    · exact htake
  | @fails st e hd hcode he hinv hturn hsettled =>
    have hgrows := Traced.grows_record hturn (h.placed.fresh _ le_rfl) (.error e)
    have hfailed := h.grows hinv hsettled hgrows none nofun r.waiting
    exact hfailed.resubmitted r.traced.st.nextSubmissionOrder e

theorem Inv.step (h : Inv r) (act : Act) : Inv (r.step act) := by
  cases act with
  | callback c =>
    have hgood : Traced.Good r.traced (r.traced.callback c) :=
      Traced.onTransfer_good (Traced.dispatch_good c.submit.inner) r.traced
    obtain ⟨hinv, hgrows⟩ := hgood h.placed
    have hst : (r.traced.callback c).st = onTransfer c.submit.code (dispatch c.submit.inner) c.index
        c.transfer c.status c.actualLength r.traced.st :=
      Traced.onTransfer_st r.traced (Traced.dispatch_st c.submit.inner)
    have hkept : r.traced.st.Kept (r.traced.callback c).st := by
      rw [hst]
      exact Transport.kept_completion c r.traced.st
    exact h.grows hinv (h.settled.kept hkept hgrows.turn) hgrows r.held
      (fun event hevent => hkept.held (h.held event hevent)) r.waiting
  | wait submit =>
    unfold Reader.step
    dsimp only
    split
    · exact h
    · exact h.wait submit
  | resume eventResult =>
    unfold Reader.step
    dsimp only
    split
    · unfold Reader.resume
      split
      · exact ⟨h.placed, h.settled, h.held, h.turns, h.results, h.told⟩
      · have hready : Inv { r with waiting := false } :=
          ⟨h.placed, h.settled, h.held, h.turns, h.results, h.told⟩
        exact hready.take
    · exact h

end Reader

/-! ## Starting -/

namespace Placed

variable {st : StreamState} {o : Outcomes} {index : Nat}

theorem vacant_of_allocated (h : (st.slots index).status = .allocated) : Vacant st index := by
  rintro k ⟨-, hh | hh⟩
  · rw [h] at hh; cases hh
  · rw [h] at hh; cases hh.1

theorem setTransfer (h : Placed st o) (hindex : index < st.count)
    (hs : (st.slots index).status = .allocated) (transfer : Option Nat) :
    Placed (st.setTransfer index transfer) o := by
  have hself : (st.setTransfer index transfer).slots index = { st.slots index with transfer } :=
    setSlot_self ..
  have hother : ∀ i, i ≠ index → (st.setTransfer index transfer).slots i = st.slots i :=
    fun i hi => setSlot_of_ne st hi
  have hvacant : Vacant (st.setTransfer index transfer) index :=
    vacant_of_allocated (by rw [hself]; exact hs)
  have hset : Changed index st (st.setTransfer index transfer) := changed_setSlot st rfl
  refine ⟨hset.wf hindex h.wf, h.going, h.le, fun k => ?_, h.fresh, fun i hi k hk => ?_, h.block,
    h.deferred⟩
  · have hslots := slotsAt_change k (st.setTransfer index transfer) hindex rfl rfl hother
    rw [if_neg (vacant_of_allocated hs k), if_neg (hvacant k)] at hslots
    have hlive := h.live k
    change (st.setTransfer index transfer).slotsAt k + st.readyAt k + st.deferredAt k =
      if st.nextDeliveryOrder ≤ k ∧ k < st.nextSubmissionOrder then 1 else 0
    omega
  · rcases eq_or_ne i index with rfl | hne
    · exact absurd hk (hvacant k)
    · rw [note, hother i hne]
      exact h.slot i hi k ((slotHolds_congr (hother i hne) rfl).1 hk)

end Placed

namespace Traced

/-- No turn has been taken and nothing delivered. -/
structure Unread (st : StreamState) : Prop where
  turn : st.nextDeliveryOrder = 0
  delivered : st.delivered = none
  deliveredReady : st.deliveredReady = none

theorem startSlots_good (env : StartEnv) : ∀ (indices : List Nat) {t : Traced}, t.Inv →
    Unread t.st → indices.Nodup →
    (∀ i ∈ indices, i < t.st.count ∧ (t.st.slots i).status = .allocated) →
    (startSlots env t indices).2 = none →
    (startSlots env t indices).1.Inv ∧ Unread (startSlots env t indices).1.st := by
  intro indices
  induction indices with
  | nil => exact fun h hread _ _ _ => ⟨h, hread⟩
  | cons index rest ih =>
    intro t h hread hnodup hlist hok
    obtain ⟨hindex, hs⟩ := hlist index (List.mem_cons_self ..)
    have htransfer := Placed.setTransfer h hindex hs (env.transfer index)
    simp only [startSlots] at hok ⊢
    split at hok
    · cases hok
    next henv =>
      rw [if_neg henv]
      split at hok
      · cases hok
      next hcode =>
        rw [if_neg hcode]
        have hself : (t.st.setTransfer index (env.transfer index)).slots index =
            { t.st.slots index with transfer := env.transfer index } := setSlot_self ..
        obtain ⟨hinv, hgrows⟩ := submit_good (t := t.setState (t.st.setTransfer index
          (env.transfer index))) htransfer hindex
          (Placed.vacant_of_allocated (by rw [setState, hself]; exact hs)) (env.submit index).inner
        obtain ⟨st₁, hchanged, -, hkept⟩ := submitSlot_kept
          (t.st.setTransfer index (env.transfer index)) 0 index
          (dispatch_kept (env.submit index).inner)
        have hst := submit_st (t.setState (t.st.setTransfer index (env.transfer index)))
          (env.submit index).inner index
        refine ih hinv ⟨hgrows.turn.trans hread.turn, ?_, ?_⟩ (List.nodup_cons.1 hnodup).2 ?_ hok
        · rw [hst]
          exact hkept.delivered.trans (hchanged.delivered.trans hread.delivered)
        · rw [hst]
          exact hkept.deliveredReady.trans (hchanged.deliveredReady.trans hread.deliveredReady)
        · intro i hi
          obtain ⟨hlt, hstatus⟩ := hlist i (List.mem_cons_of_mem _ hi)
          have hne : i ≠ index := by
            rintro rfl
            exact (List.nodup_cons.1 hnodup).1 hi
          have hother : (t.st.setTransfer index (env.transfer index)).slots i = t.st.slots i :=
            setSlot_of_ne _ hne
          have hidle := submitSlot_idle 0 (dispatch_idle (env.submit index).inner)
            (t.st.setTransfer index (env.transfer index)) hne (by rw [hother, hstatus]; rintro ⟨⟩)
          rw [hst]
          refine ⟨?_, ?_⟩
          · exact hlt.trans_eq (hkept.count.trans hchanged.count).symm
          · exact (congrArg Slot.status (hidle.trans hother)).trans hstatus

theorem create_inv (base count : Nat) (env : StartEnv) :
    Inv ⟨.create base count env, fun _ => none⟩ := by
  have hslots : ∀ k, (StreamState.create base count env).slotsAt k = 0 :=
    fun k => Nat.count_iff_forall_not.2 fun i _ => Placed.vacant_of_allocated rfl k
  have hready : ∀ k, (StreamState.create base count env).readyAt k = 0 :=
    fun k => Nat.count_iff_forall_not.2 fun i _ hh => absurd hh.1 nofun
  refine ⟨Transport.create_wf base count env, rfl, le_rfl, fun k => ?_, fun _ _ => rfl,
    fun i _ k hk => absurd hk (Placed.vacant_of_allocated rfl k), fun i _ k hk => absurd hk.1 nofun,
    nofun⟩
  rw [hslots, hready, if_neg (by simp [StreamState.create])]
  rfl

end Traced

namespace Reader

theorem start_inv (base count : Nat) (env : StartEnv) (hstart : (start base count env).2 = none) :
    Inv (start base count env).1 := by
  obtain ⟨hinv, hread⟩ := Traced.startSlots_good env (List.range count)
    (Traced.create_inv base count env) ⟨rfl, rfl, rfl⟩ List.nodup_range
    (fun i hi => ⟨List.mem_range.1 hi, rfl⟩) hstart
  have hturn : (start base count env).1.traced.st.nextDeliveryOrder = 0 := hread.turn
  refine ⟨hinv, ⟨fun i hi => ?_, fun i hi => ?_⟩, nofun, ?_, nofun, fun k hk => ?_⟩
  · exact absurd (hread.delivered.symm.trans hi) nofun
  · exact absurd (hread.deliveredReady.symm.trans hi) nofun
  · rw [hturn]
    rfl
  · omega

end Reader

/-! ## Errors that are `LIBUSB_ERROR_NOT_FOUND` -/

theorem mapLibusbError_ne {code : Int} (h : code ≠ kErrorNotFound) :
    mapLibusbError code ≠ .notFound := by
  unfold mapLibusbError
  split_ifs <;> nofun

theorem Slot.finish_error (slot : Slot) (genuine stopping : Bool) (transferSize : Nat)
    (status : TransferStatus) (actualLength : Int) :
    (slot.finish genuine stopping transferSize status actualLength).error ≠ some .notFound := by
  unfold Slot.finish
  split
  · nofun
  · cases status with
    | completed => simp only; split <;> nofun
    | cancelled => simp only; split <;> nofun
    | _ => nofun

namespace Traced

/-- No outcome is the error that means that there is none. -/
def Told (t : Traced) : Prop := ∀ k, t.outcomes k ≠ some (.error .notFound)

variable {t : Traced} {code : Int} {inner : Traced → Traced} {index transfer : Nat}
  {status : TransferStatus} {actualLength : Int}

theorem Told.record (h : Told t) (st : StreamState) (k : Nat) {outcome : Result StreamEvent}
    (houtcome : outcome ≠ .error .notFound) : Told ((t.setState st).record k outcome) := by
  intro k'
  rcases eq_or_ne k' k with rfl | hne
  · show Function.update t.outcomes k' (some outcome) k' ≠ _
    rw [Function.update_self]
    exact fun heq => houtcome (Option.some.inj heq)
  · show Function.update t.outcomes k (some outcome) k' ≠ _
    rw [Function.update_of_ne hne]
    exact h k'

theorem outcome_ne (st : StreamState) {slot : Slot} (h : slot.error ≠ some .notFound) :
    st.outcome slot ≠ .error .notFound := by
  unfold outcome
  split
  next e he => exact fun heq => h (by rw [he, Except.error.inj heq])
  · nofun

theorem Told.onTransfer (h : Told t) (hcode : code ≠ kErrorNotFound)
    (hinner : ∀ t, Told t → Told (inner t)) :
    Told (t.onTransfer code inner index transfer status actualLength) := by
  unfold Traced.onTransfer
  split
  · exact h
  have hrecord : ∀ st, Told ((t.setState st).record
      (t.st.finished index transfer status actualLength).submissionOrder
      (t.st.outcome (t.st.finished index transfer status actualLength))) :=
    fun st => h.record st _ (outcome_ne t.st (Slot.finish_error _ _ _ _ _ _))
  dsimp only
  split
  next st _ => exact hrecord st
  next st block _ =>
    unfold Traced.replenish
    split
    · exact hinner _ (hrecord _)
    · refine Told.record (hrecord (st.handOver index block)) _ _ ?_
      exact fun heq => mapLibusbError_ne hcode (Except.error.inj heq)

theorem Told.dispatch (d : Dispatch) (hfound : d.found) :
    ∀ t, Told t → Told (Traced.dispatch d t) := by
  induction d with
  | done => exact fun _ h => h
  | callback index transfer status actualLength code inner rest ihInner ihRest =>
    intro t h
    exact ihRest hfound.2.2 _ (h.onTransfer hfound.1 (ihInner hfound.2.1))

theorem Told.release (h : Told t) {submit : Submit} (hfound : submit.found) :
    Told (t.release submit).1 := by
  unfold Traced.release
  split
  · exact h
  split
  · exact h
  split
  · exact Told.dispatch submit.inner hfound.2 _ h
  · exact h.record _ _ fun heq => mapLibusbError_ne hfound.1 (Except.error.inj heq)

theorem Told.startSlots (env : StartEnv) (hfound : ∀ index, (env.submit index).found) :
    ∀ (indices : List Nat) {t : Traced}, Told t → Told (Traced.startSlots env t indices).1 := by
  intro indices
  induction indices with
  | nil => exact fun h => h
  | cons index rest ih =>
    intro t h
    simp only [Traced.startSlots]
    split
    · exact h
    split
    · exact h
    · exact ih (Told.dispatch _ (hfound index).2 _ h)

end Traced

namespace Reader

variable {r : Reader}

theorem mem_turns {k : Nat} {result : Result StreamEvent} :
    (k, result) ∈ r.turns ↔ .turn k result ∈ r.returned := by
  simp only [turns, List.mem_filterMap]
  constructor
  · rintro ⟨entry, hmem, heq⟩
    cases entry with
    | turn order result' => cases heq; exact hmem
    | resubmit order e => cases heq
  · exact fun hmem => ⟨_, hmem, rfl⟩

/-- The turns that were returned have the outcomes of their submissions. -/
theorem Inv.outcome_of_mem (h : Inv r) {k : Nat} {result : Result StreamEvent}
    (hmem : .turn k result ∈ r.returned) :
    k < r.traced.st.nextDeliveryOrder ∧ r.traced.outcomes k = some result := by
  have hturn := mem_turns.2 hmem
  refine ⟨?_, h.results _ hturn⟩
  have hk : k ∈ r.turns.map (·.1) := List.mem_map_of_mem hturn
  rw [h.turns] at hk
  exact List.mem_range.1 (List.mem_filter.1 hk).1

/-- Nothing that came of a turn is lost, but for the error that means that there is nothing. -/
theorem Inv.returned_of_outcome (h : Inv r) {k : Nat} {result : Result StreamEvent}
    (hk : k < r.traced.st.nextDeliveryOrder) (ho : r.traced.outcomes k = some result)
    (hresult : result ≠ .error .notFound) : .turn k result ∈ r.returned := by
  have hmem : k ∈ r.turns.map (·.1) := by
    rw [h.turns, List.mem_filter]
    refine ⟨List.mem_range.2 hk, ?_⟩
    rw [ho]
    simpa using hresult
  obtain ⟨⟨k', result'⟩, hturn, rfl⟩ := List.mem_map.1 hmem
  have := h.results _ hturn
  rw [ho] at this
  rw [Option.some.inj this]
  exact mem_turns.1 hturn

/-- The slots with a number are those submitted and those that wait. -/
theorem slotsAt_eq (st : StreamState) (k : Nat) :
    st.submittedAt k + st.waitingAt k = st.slotsAt k := by
  unfold submittedAt waitingAt slotsAt
  induction st.count with
  | zero => rfl
  | succ n ih =>
    rw [Nat.count_succ, Nat.count_succ, Nat.count_succ, ← ih]
    by_cases hs : (st.slots n).status = .submitted
    · simp [SlotHolds, hs]
      omega
    · simp [SlotHolds, hs, and_left_comm]
      omega

theorem Inv.consecutive (h : Inv r) (htold : r.traced.Told) :
    r.turns.map (·.1) = List.range r.traced.st.nextDeliveryOrder := by
  rw [h.turns, List.filter_eq_self]
  exact fun k _ => decide_eq_true (htold k)

theorem Inv.onePlace (h : Inv r) (htold : r.traced.Told) {k : Nat}
    (hk : k < r.traced.st.nextSubmissionOrder) : r.places k = 1 := by
  have hlive := h.placed.live k
  have hslots := slotsAt_eq r.traced.st k
  have hturns : r.turns.countP (fun turn => turn.1 = k) =
      if k < r.traced.st.nextDeliveryOrder then 1 else 0 := by
    have hcount : r.turns.countP (fun turn => turn.1 = k) = (r.turns.map (·.1)).count k := by
      rw [List.count, List.countP_map]
      rfl
    rw [hcount, h.consecutive htold]
    split
    next hlt => exact List.count_eq_one_of_mem List.nodup_range (List.mem_range.2 hlt)
    next hlt => exact List.count_eq_zero_of_not_mem fun hmem => hlt (List.mem_range.1 hmem)
  unfold places
  rw [hturns]
  split_ifs at hlive ⊢ <;> omega

/-- The returns of a call of `completed`. -/
theorem take_returned (r : Reader) : r.take.1.returned = r.returned ∨
    ∃ result, r.take.1.returned =
      r.returned ++ [.turn r.traced.st.nextDeliveryOrder result] := by
  unfold Reader.take
  dsimp only
  split
  · exact .inl rfl
  · exact .inr ⟨_, rfl⟩

/-- An error that `completed` returns overtakes nothing. -/
theorem Inv.take_notOvertaken (h : Inv r) {result : Return} {order : Nat}
    (hreturned : r.take.1.returned = r.returned ++ [result]) (hfails : fails result = some order)
    {k : Nat} (hk : k < order) {event : StreamEvent}
    (ho : r.traced.outcomes k = some (.ok event)) : .turn k (.ok event) ∈ r.returned := by
  rcases take_returned r with heq | ⟨outcome, heq⟩
  · rw [heq] at hreturned
    exact absurd hreturned (by simp)
  · rw [heq] at hreturned
    obtain rfl : Return.turn r.traced.st.nextDeliveryOrder outcome = result := by
      simpa using List.append_cancel_left hreturned
    have horder : order = r.traced.st.nextDeliveryOrder := by
      cases outcome with
      | ok event => cases hfails
      | error e => exact (Option.some.inj hfails).symm
    exact h.returned_of_outcome (horder ▸ hk) ho nofun

/-- A block that waits for its turn has completed without an error, and was not returned. -/
theorem Inv.waiting_of_data (h : Inv r) (hdata : r.traced.st.dataWaiting = true) :
    ∃ k event, k < r.traced.st.nextSubmissionOrder ∧ r.traced.outcomes k = some (.ok event) ∧
      .turn k (.ok event) ∉ r.returned := by
  have hnot : ∀ k event, r.traced.st.nextDeliveryOrder ≤ k → .turn k (.ok event) ∉ r.returned :=
    fun k event hle hmem => absurd (h.outcome_of_mem hmem).1 (Nat.not_lt.2 hle)
  simp only [dataWaiting, List.any_eq_true, List.mem_range, Bool.or_eq_true, Bool.and_eq_true,
    beq_iff_eq, Option.isNone_iff_eq_none, decide_eq_true_eq] at hdata
  obtain ⟨i, hi, ⟨⟨hs, herror⟩, hle⟩ | ⟨hready, hle⟩⟩ := hdata
  · have hholds : r.traced.st.SlotHolds (r.traced.st.slots i).submissionOrder i :=
      ⟨rfl, .inr ⟨hs, hle⟩⟩
    have hnote := h.placed.slot i hi _ hholds
    rw [note, if_neg (by rw [hs]; rintro ⟨⟩), outcome, herror] at hnote
    exact ⟨_, _, (h.placed.slot_range hi hholds).2, hnote, hnot _ _ hle⟩
  · have hholds : r.traced.st.BlockHolds (r.traced.st.ready i).submissionOrder i :=
      ⟨hready, rfl, hle⟩
    exact ⟨_, _, (h.placed.block_range hi hholds).2, (h.placed.block i hi _ hholds).2, hnot _ _ hle⟩

/-- What has completed without an error was returned, or waits for its turn. -/
theorem Inv.data_or_returned (h : Inv r) (hdata : r.traced.st.dataWaiting = false) {k : Nat}
    {event : StreamEvent} (ho : r.traced.outcomes k = some (.ok event)) :
    .turn k (.ok event) ∈ r.returned := by
  refine h.returned_of_outcome ?_ ho (by rintro ⟨⟩)
  by_contra hle
  have hlt : k < r.traced.st.nextSubmissionOrder := by
    by_contra hge
    rw [h.placed.fresh k (Nat.not_lt.1 hge)] at ho
    cases ho
  have hlive := h.placed.live k
  rw [if_pos ⟨Nat.not_lt.1 hle, hlt⟩] at hlive
  simp only [dataWaiting, List.any_eq_false, List.mem_range, Bool.or_eq_true, Bool.and_eq_true,
    beq_iff_eq, Option.isNone_iff_eq_none, decide_eq_true_eq, not_or, not_and] at hdata
  -- the number is with a slot, with a ready block, or that of the deferred error
  by_cases hslots : r.traced.st.slotsAt k = 0
  · by_cases hready : r.traced.st.readyAt k = 0
    · have hd : r.traced.st.deferredErrorValid = true ∧ r.traced.st.deferredErrorOrder = k := by
        by_contra hne
        have : r.traced.st.deferredAt k = 0 := if_neg hne
        omega
      have hnote := (h.placed.deferred hd.1).2
      rw [hd.2, ho] at hnote
      cases hnote
    · obtain ⟨i, hi, hholds⟩ := Nat.count_ne_iff_exists.1 hready
      exact (hdata i hi).2 hholds.1 (by rw [hholds.2.1]; exact hholds.2.2)
  · obtain ⟨i, hi, hholds⟩ := Nat.count_ne_iff_exists.1 hslots
    have hnote := h.placed.slot i hi k hholds
    rw [ho] at hnote
    rcases hholds.2 with hs | ⟨hs, hturn⟩
    · rw [note, if_pos hs] at hnote
      cases hnote
    · rw [note, if_neg (by rw [hs]; rintro ⟨⟩), outcome] at hnote
      split at hnote
      · cases hnote
      next herror => exact (hdata i hi).1 ⟨hs, herror⟩ (by rw [hholds.1]; exact hturn)

theorem Inv.wait_notOvertaken (h : Inv r) (hwaiting : r.waiting = false) (submit : Submit) :
    r.NotOvertaken (.wait submit) ↔ r.SubmitCond (.wait submit) := by
  have hstep : r.step (.wait submit) = (r.wait submit).1 := by simp [Reader.step, hwaiting]
  unfold NotOvertaken SubmitCond
  rw [hstep]
  unfold Reader.wait
  have hcases := Traced.release_cases h.placed h.settled submit
  generalize r.traced.release submit = result at hcases
  cases hcases with
  | @goes traced hok hinv hgrows hsettled =>
    refine ⟨fun _ _ hd hcode => absurd ⟨hd, hcode⟩ hok,
      fun _ result order hreturned hfails k hk event ho => ?_⟩
    have hreleased := h.grows hinv hsettled hgrows none nofun r.waiting
    refine hreleased.take_notOvertaken ?_ hfails hk ?_
    · dsimp only at hreturned
      split at hreturned
      · exact hreturned
      · exact hreturned
    · dsimp only at ho
      split at ho
      · exact ho
      · exact ho
  | @fails st e hd hcode he hinv hturn hsettled =>
    dsimp only
    constructor
    · intro hno _ _ _
      by_contra hdata
      obtain ⟨k, event, hk, ho, hnot⟩ := h.waiting_of_data (Bool.eq_true_of_not_eq_false hdata)
      refine hnot (hno _ r.traced.st.nextSubmissionOrder rfl rfl k hk event ?_)
      exact (Function.update_of_ne hk.ne _ _).trans ho
    · intro hcond result order hreturned hfails k hk event ho
      obtain rfl : Return.resubmit r.traced.st.nextSubmissionOrder e = result := by
        simpa using List.append_cancel_left hreturned
      have horder : order = r.traced.st.nextSubmissionOrder := (Option.some.inj hfails).symm
      have hne : k ≠ r.traced.st.nextSubmissionOrder := (horder ▸ hk).ne
      exact h.data_or_returned (hcond hwaiting hd hcode)
        ((Function.update_of_ne hne _ _).symm.trans ho)

/-- A step overtakes nothing exactly when it meets the condition. -/
theorem Inv.notOvertaken_iff (h : Inv r) (act : Act) : r.NotOvertaken act ↔ r.SubmitCond act := by
  cases act with
  | callback c =>
    refine ⟨fun _ => trivial, fun _ result order hreturned => ?_⟩
    exact absurd hreturned (by simp [Reader.step])
  | wait submit =>
    cases hwaiting : r.waiting with
    | false => exact h.wait_notOvertaken hwaiting submit
    | true =>
      refine ⟨fun _ hne => absurd (hwaiting.symm.trans hne) nofun,
        fun _ result order hreturned => ?_⟩
      exact absurd hreturned (by simp [Reader.step, hwaiting])
  | resume eventResult =>
    refine ⟨fun _ => trivial, fun _ result order hreturned hfails k hk event ho => ?_⟩
    unfold Reader.step Reader.resume at hreturned ho
    dsimp only at hreturned ho
    split at hreturned
    next hwaiting =>
      rw [if_pos hwaiting] at ho
      split at hreturned
      · exact absurd hreturned (by simp)
      next hev =>
        rw [if_neg hev] at ho
        have hready : Inv { r with waiting := false } :=
          ⟨h.placed, h.settled, h.held, h.turns, h.results, h.told⟩
        exact hready.take_notOvertaken hreturned hfails hk ho
    · exact absurd hreturned (by simp)

/-- **Errors do not overtake data, exactly when.** In a run of a started stream every error that
`wait_stream` returns for a submission comes after every block with a smaller number that has
completed without an error, exactly when at every step of the run `wait_stream` does not fail to
submit a slot again while such a block waits. -/
theorem not_overtaken_iff (base count : Nat) (env : StartEnv)
    (hstart : (start base count env).2 = none) (acts : List Act) :
    Lib.AllSteps step NotOvertaken (start base count env).1 acts ↔
      Lib.AllSteps step SubmitCond (start base count env).1 acts :=
  Lib.allSteps_iff (fun _ act h hc => ⟨h.step act, (h.notOvertaken_iff act).2 hc⟩)
    (fun _ act h hc hno => hc ((h.notOvertaken_iff act).1 hno)) acts
    (start_inv base count env hstart)

/-- Two transfers, each completed twice, and the first three blocks returned. -/
def backlog : List Act :=
  [.callback ⟨0, 0, .completed, 188, {}⟩, .callback ⟨1, 1, .completed, 188, {}⟩,
    .callback ⟨0, 0, .completed, 188, {}⟩, .callback ⟨1, 1, .completed, 188, {}⟩,
    .wait {}, .wait {},
    .wait {}]

theorem not_overtaken_backlog :
    Lib.AllSteps step NotOvertaken (start 0 2 { transferSize := 188 }).1
      (backlog ++ [.wait {}, .wait { code := -1 }]) := by
  exact (not_overtaken_iff 0 2 { transferSize := 188 } (by decide) _).2 (by decide)

/-- The third block is given back, and its slot cannot be submitted again: the error of that
submission is returned while the fourth block waits. -/
theorem error_overtakes :
    ¬Lib.AllSteps step NotOvertaken (start 0 2 { transferSize := 188 }).1
      (backlog ++ [.wait { code := -1 }]) := by
  intro h
  have hlast := h.last (.resubmit 4 .usbIo) 4 (by decide) rfl 3 (by decide)
    ⟨.data, 3, 188⟩ (by decide)
  exact absurd hlast (by decide)

end Reader

end Px4.Usb
