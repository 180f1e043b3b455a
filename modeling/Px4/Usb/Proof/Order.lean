import Px4.Lib.Tally
import Px4.Usb.Proof.Trace

/-!
# The submission numbers of a stream are in their places

`Placed`: every submission number from the next turn on is in one place, a slot, a ready block or
the deferred error, which says what came of it. The moves of a number keep this (`Placed.finish`,
`Placed.hand`, `Placed.mark`, `Placed.defer`, `Placed.fail`, `Placed.advance`), so the callbacks
(`Traced.dispatch_good`) and the parts of `wait_stream` do (`Traced.release_cases`,
`Placed.completed_cases`).
-/

namespace Px4.Usb

open StreamState

/-! ## Where a submission number is -/

namespace StreamState

variable (st : StreamState) (k : Nat)

/-- The slot has the number `k`: submitted, or completed and waiting for its turn. -/
def SlotHolds (i : Nat) : Prop :=
  (st.slots i).submissionOrder = k ∧ ((st.slots i).status = .submitted ∨
    (st.slots i).status = .completed ∧ st.nextDeliveryOrder ≤ k)

/-- The ready block has the number `k` and waits for its turn. -/
def BlockHolds (i : Nat) : Prop :=
  (st.ready i).ready = true ∧ (st.ready i).submissionOrder = k ∧ st.nextDeliveryOrder ≤ k

instance : DecidablePred (st.SlotHolds k) := fun _ => inferInstanceAs (Decidable (_ ∧ _))

instance : DecidablePred (st.BlockHolds k) := fun _ => inferInstanceAs (Decidable (_ ∧ _))

/-- The slots with the number `k`. -/
def slotsAt : Nat := Nat.count (st.SlotHolds k) st.count

variable {st k} in
theorem slotHolds_congr {st' : StreamState} {i : Nat} (hslot : st'.slots i = st.slots i)
    (hturn : st'.nextDeliveryOrder = st.nextDeliveryOrder) :
    st'.SlotHolds k i ↔ st.SlotHolds k i := by
  simp only [SlotHolds, hslot, hturn]

variable {st} in
theorem slotsAt_change (st' : StreamState) {index : Nat} (hindex : index < st.count)
    (hcount : st'.count = st.count) (hturn : st'.nextDeliveryOrder = st.nextDeliveryOrder)
    (hslots : ∀ i, i ≠ index → st'.slots i = st.slots i) :
    st'.slotsAt k + (if st.SlotHolds k index then 1 else 0) =
      st.slotsAt k + (if st'.SlotHolds k index then 1 else 0) := by
  unfold slotsAt
  rw [hcount]
  exact Lib.count_change hindex fun i hi => slotHolds_congr (hslots i hi) hturn

variable {st} in
theorem readyAt_change (st' : StreamState) {block : Nat} (hblock : block < st.count)
    (hcount : st'.count = st.count) (hturn : st'.nextDeliveryOrder = st.nextDeliveryOrder)
    (hready : ∀ i, i ≠ block → st'.ready i = st.ready i) :
    st'.readyAt k + (if st.BlockHolds k block then 1 else 0) =
      st.readyAt k + (if st'.BlockHolds k block then 1 else 0) := by
  unfold readyAt
  rw [hcount]
  refine Lib.count_change (p := st.BlockHolds k) (q := st'.BlockHolds k) hblock fun i hi => ?_
  simp only [BlockHolds, hready i hi, hturn]

/-- What a slot says came of its submission. -/
def note (i : Nat) : Option (Result StreamEvent) :=
  if (st.slots i).status = .submitted then none else some (st.outcome (st.slots i))

end StreamState

/-- What has come of each submission. -/
abbrev Outcomes := Nat → Option (Result StreamEvent)

/-- Every submission number from the next turn on is in one place, which says what came of it. -/
structure Placed (st : StreamState) (o : Outcomes) : Prop where
  wf : st.Wf
  going : st.stopping = false
  le : st.nextDeliveryOrder ≤ st.nextSubmissionOrder
  live : ∀ k, st.slotsAt k + st.readyAt k + st.deferredAt k =
    if st.nextDeliveryOrder ≤ k ∧ k < st.nextSubmissionOrder then 1 else 0
  fresh : ∀ k, st.nextSubmissionOrder ≤ k → o k = none
  slot : ∀ i < st.count, ∀ k, st.SlotHolds k i → o k = st.note i
  block : ∀ i < st.count, ∀ k, st.BlockHolds k i → (st.ready i).error = none ∧
    o k = some (.ok (st.event (st.ready i).buffer (st.ready i).actualLength))
  deferred : st.deferredErrorValid = true → st.resubmitFailed = true ∧
    o st.deferredErrorOrder = some (.error st.deferredError)

namespace Placed

section

variable {st : StreamState} {o : Outcomes} {index block i k : Nat}

theorem slotsAt_pos (hi : i < st.count) (hh : st.SlotHolds k i) : 0 < st.slotsAt k :=
  Lib.count_pos hi hh

theorem readyAt_pos (hi : i < st.count) (hh : st.BlockHolds k i) : 0 < st.readyAt k :=
  Lib.count_pos hi hh

theorem range_of_live (h : Placed st o) (hk : 0 < st.slotsAt k + st.readyAt k + st.deferredAt k) :
    st.nextDeliveryOrder ≤ k ∧ k < st.nextSubmissionOrder := by
  by_contra hne
  rw [h.live k, if_neg hne] at hk
  omega

theorem live_le (h : Placed st o) (k : Nat) :
    st.slotsAt k + st.readyAt k + st.deferredAt k ≤ 1 := by
  rw [h.live k]
  split <;> omega

theorem slot_range (h : Placed st o) (hi : i < st.count) (hh : st.SlotHolds k i) :
    st.nextDeliveryOrder ≤ k ∧ k < st.nextSubmissionOrder := by
  have := slotsAt_pos hi hh
  exact h.range_of_live (by omega)

theorem block_range (h : Placed st o) (hi : i < st.count) (hh : st.BlockHolds k i) :
    st.nextDeliveryOrder ≤ k ∧ k < st.nextSubmissionOrder := by
  have := readyAt_pos hi hh
  exact h.range_of_live (by omega)

theorem deferred_range (h : Placed st o) (hvalid : st.deferredErrorValid = true) :
    st.nextDeliveryOrder ≤ st.deferredErrorOrder ∧
      st.deferredErrorOrder < st.nextSubmissionOrder := by
  have : st.deferredAt st.deferredErrorOrder = 1 := if_pos ⟨hvalid, rfl⟩
  exact h.range_of_live (by omega)

/-- One slot has the number. -/
theorem slot_unique (h : Placed st o) (hindex : index < st.count) (hi : i < st.count)
    (hhindex : st.SlotHolds k index) (hhi : st.SlotHolds k i) : i = index := by
  have hle := h.live_le k
  have hcount : Nat.count (st.SlotHolds k) st.count ≤ 1 := by
    show st.slotsAt k ≤ 1
    omega
  exact Lib.eq_of_count_le_one hcount hi hindex hhi hhindex

/-- A number that a slot has is in no ready block and not that of the deferred error. -/
theorem slot_only (h : Placed st o) (hindex : index < st.count) (hh : st.SlotHolds k index) :
    (∀ i < st.count, ¬st.BlockHolds k i) ∧
      ¬(st.deferredErrorValid = true ∧ st.deferredErrorOrder = k) := by
  have hle := h.live_le k
  have hslot := slotsAt_pos hindex hh
  refine ⟨fun i hi hb => ?_, fun hd => ?_⟩
  · have := readyAt_pos hi hb
    omega
  · have : st.deferredAt k = 1 := if_pos hd
    omega

/-- A number that a ready block has is in no slot and not that of the deferred error. -/
theorem block_only (h : Placed st o) (hblock : block < st.count) (hh : st.BlockHolds k block) :
    (∀ i < st.count, ¬st.SlotHolds k i) ∧
      ¬(st.deferredErrorValid = true ∧ st.deferredErrorOrder = k) := by
  have hle := h.live_le k
  have hready := readyAt_pos hblock hh
  refine ⟨fun i hi hs => ?_, fun hd => ?_⟩
  · have := slotsAt_pos hi hs
    omega
  · have : st.deferredAt k = 1 := if_pos hd
    omega

/-! ### Moves -/

/-- **A transfer completes**: the number stays with its slot. -/
theorem finish (h : Placed st o) (slot : Slot) (hs : (st.slots index).status = .submitted)
    (hstatus : slot.status = .completed)
    (horder : slot.submissionOrder = (st.slots index).submissionOrder)
    (hbuffer : slot.buffer = (st.slots index).buffer) :
    Placed (st.setSlot index slot)
      (Function.update o slot.submissionOrder (some (st.outcome slot))) := by
  have hindex := h.wf.submitted index hs
  have hholds : st.SlotHolds slot.submissionOrder index := ⟨horder.symm, .inl hs⟩
  have hrange := h.slot_range hindex hholds
  have hself := setSlot_self st index slot
  refine ⟨(changed_setSlot st hbuffer).wf hindex h.wf, h.going, h.le, fun k => ?_, fun k hk => ?_,
    fun i hi k hk => ?_, fun i hi k hk => ?_, fun hd => ?_⟩
  · have hchange := slotsAt_change k (st.setSlot index slot) hindex rfl rfl
      fun i hi => setSlot_of_ne st hi
    have hiff : (st.setSlot index slot).SlotHolds k index ↔ st.SlotHolds k index := by
      simp only [SlotHolds, hself, hstatus, hs, horder]
      constructor
      · exact fun hh => ⟨hh.1, .inl trivial⟩
      · exact fun hh => ⟨hh.1, .inr ⟨trivial, hh.1 ▸ horder ▸ hrange.1⟩⟩
    simp only [hiff] at hchange
    have hlive := h.live k
    change (st.setSlot index slot).slotsAt k + st.readyAt k + st.deferredAt k =
      if st.nextDeliveryOrder ≤ k ∧ k < st.nextSubmissionOrder then 1 else 0
    omega
  · have hne : k ≠ slot.submissionOrder := by
      have : st.nextSubmissionOrder ≤ k := hk
      omega
    rw [Function.update_of_ne hne]
    exact h.fresh k hk
  · rcases eq_or_ne i index with rfl | hne
    · obtain rfl : slot.submissionOrder = k := by simpa only [hself] using hk.1
      rw [Function.update_self, note, hself, hstatus, if_neg nofun]
      rfl
    · have hk' : st.SlotHolds k i := (slotHolds_congr (setSlot_of_ne st hne) rfl).1 hk
      have hother : k ≠ slot.submissionOrder := by
        rintro rfl
        exact hne (h.slot_unique hindex hi hholds hk')
      rw [Function.update_of_ne hother, note, setSlot_of_ne st hne]
      exact h.slot i hi k hk'
  · have hother : k ≠ slot.submissionOrder := by
      rintro rfl
      exact (h.slot_only hindex hholds).1 i hi hk
    rw [Function.update_of_ne hother]
    exact h.block i hi k hk
  · have hother : st.deferredErrorOrder ≠ slot.submissionOrder := by
      intro heq
      exact (h.slot_only hindex hholds).2 ⟨hd, heq⟩
    exact ⟨(h.deferred hd).1, (Function.update_of_ne hother _ _).trans (h.deferred hd).2⟩

/-- The place of a number that has been handed over: its slot is free, with the block's buffer. -/
def handed (st : StreamState) (index block : Nat) : StreamState :=
  (st.handOver index block).setSlot index
    { (st.handOver index block).slots index with status := .allocated }

theorem handed_ready_self (st : StreamState) (index block : Nat) :
    (handed st index block).ready block = {
      buffer := (st.slots index).buffer
      ready := true
      error := (st.slots index).error
      actualLength := (st.slots index).actualLength
      submissionOrder := (st.slots index).submissionOrder } :=
  Function.update_self ..

theorem handed_ready_of_ne (st : StreamState) (index : Nat) {block : Nat} (h : i ≠ block) :
    (handed st index block).ready i = st.ready i :=
  Function.update_of_ne h _ _

theorem handed_slots_of_ne (st : StreamState) {index block : Nat} (h : i ≠ index) :
    (handed st index block).slots i = st.slots i :=
  (setSlot_of_ne _ h).trans (Function.update_of_ne h _ _)

theorem handed_status (st : StreamState) (index block : Nat) :
    ((handed st index block).slots index).status = .allocated :=
  congrArg Slot.status (setSlot_self _ _ _)

/-- **A completion is handed over**: the number goes from its slot to the ready block. -/
theorem hand (h : Placed st o) (hindex : index < st.count)
    (hs : (st.slots index).status = .completed) (herror : (st.slots index).error = none)
    (hturn : st.nextDeliveryOrder ≤ (st.slots index).submissionOrder) (hblock : block < st.count)
    (hfree : (st.ready block).ready = false) (hdr : st.deliveredReady ≠ some block) :
    Placed (handed st index block) o := by
  have hholds : st.SlotHolds (st.slots index).submissionOrder index := ⟨rfl, .inr ⟨hs, hturn⟩⟩
  have hfreed : ∀ k, ¬(handed st index block).SlotHolds k index := by
    intro k hk
    have hstatus := handed_status st index block
    rcases hk.2 with hh | hh
    · rw [hstatus] at hh; cases hh
    · rw [hstatus] at hh; cases hh.1
  have hself := handed_ready_self st index block
  have hto : ∀ k, (handed st index block).BlockHolds k block ↔ st.SlotHolds k index := by
    intro k
    simp only [BlockHolds, SlotHolds, hself, hs]
    constructor
    · exact fun hh => ⟨hh.2.1, .inr ⟨trivial, hh.2.2⟩⟩
    · exact fun hh => ⟨trivial, hh.1, hh.1 ▸ hturn⟩
  refine ⟨?_, h.going, h.le, fun k => ?_, h.fresh, fun i hi k hk =>
    ?_, fun i hi k hk => ?_, h.deferred⟩
  · have hover : Changed index st (st.handOver index block) := changed_handOver hblock hdr
    have hset : Changed index (st.handOver index block) (handed st index block) :=
      changed_setSlot _ rfl
    exact (hover.trans hset).wf hindex h.wf
  · have hslots := slotsAt_change k (handed st index block) hindex rfl rfl
      fun i hi => handed_slots_of_ne st hi
    have hready := readyAt_change k (handed st index block) hblock rfl rfl
      fun i hi => handed_ready_of_ne st index hi
    rw [if_neg (hfreed k)] at hslots
    rw [if_neg (fun hb => absurd (hb.1.symm.trans hfree) nofun)] at hready
    simp only [hto k] at hready
    have hlive := h.live k
    change (handed st index block).slotsAt k + (handed st index block).readyAt k + st.deferredAt k =
      if st.nextDeliveryOrder ≤ k ∧ k < st.nextSubmissionOrder then 1 else 0
    omega
  · rcases eq_or_ne i index with rfl | hne
    · exact absurd hk (hfreed k)
    · rw [note, handed_slots_of_ne st hne]
      exact h.slot i hi k ((slotHolds_congr (handed_slots_of_ne st hne) rfl).1 hk)
  · rcases eq_or_ne i block with rfl | hne
    · have hnote := h.slot index hindex k ((hto k).1 hk)
      rw [note, hs, if_neg nofun, outcome, herror] at hnote
      rw [hself]
      exact ⟨herror, hnote⟩
    · have hk' : st.BlockHolds k i := by
        have heq := handed_ready_of_ne st index hne
        exact ⟨heq ▸ hk.1, heq ▸ hk.2.1, hk.2.2⟩
      rw [handed_ready_of_ne st index hne]
      exact h.block i hi k hk'

/-- The slot has no number. -/
def Vacant (st : StreamState) (index : Nat) : Prop := ∀ k, ¬st.SlotHolds k index

/-- **A slot is submitted**: it takes the next number. -/
theorem mark (h : Placed st o) (hindex : index < st.count) (hvacant : Vacant st index) :
    Placed (st.markSubmitted index) o := by
  have hself : (st.markSubmitted index).slots index = { st.slots index with
      status := .submitted, submissionOrder := st.nextSubmissionOrder } :=
    Function.update_self ..
  have hother : ∀ i, i ≠ index → (st.markSubmitted index).slots i = st.slots i :=
    fun i hi => Function.update_of_ne hi _ _
  have hnew : ∀ k, (st.markSubmitted index).SlotHolds k index ↔ st.nextSubmissionOrder = k := by
    intro k
    simp only [SlotHolds, hself, true_or, and_true]
  refine ⟨(changed_markSubmitted st index).wf hindex h.wf, h.going, h.le.trans (Nat.le_succ _),
    fun k => ?_, fun k hk => h.fresh k ?_, fun i hi k hk => ?_, h.block, h.deferred⟩
  · have hslots := slotsAt_change k (st.markSubmitted index) hindex rfl rfl
      hother
    rw [if_neg (hvacant k)] at hslots
    simp only [hnew k] at hslots
    have hlive := h.live k
    have hle := h.le
    change (st.markSubmitted index).slotsAt k + st.readyAt k + st.deferredAt k =
      if st.nextDeliveryOrder ≤ k ∧ k < st.nextSubmissionOrder + 1 then 1 else 0
    split_ifs at hslots hlive ⊢ <;> omega
  · have : st.nextSubmissionOrder + 1 ≤ k := hk
    omega
  · rcases eq_or_ne i index with rfl | hne
    · obtain rfl := (hnew k).1 hk
      rw [note, hself, if_pos rfl]
      exact h.fresh _ le_rfl
    · rw [note, hother i hne]
      exact h.slot i hi k ((slotHolds_congr (hother i hne) rfl).1 hk)

/-- The next number is that of the deferred error. -/
def deferTo (st : StreamState) (index : Nat) (error : Error) : StreamState :=
  { st with
    slots := Function.update st.slots index { st.slots index with
      status := .allocated, submissionOrder := st.nextSubmissionOrder }
    nextSubmissionOrder := st.nextSubmissionOrder + 1
    resubmitFailed := true
    deferredErrorValid := true
    deferredError := error
    deferredErrorOrder := st.nextSubmissionOrder }

theorem replenish_failed (st : StreamState) (index : Nat) {code : Int} (hcode : code ≠ 0) :
    st.replenish code id index = deferTo st index (mapLibusbError code) := by
  simp [replenish, submitSlot, hcode, markSubmitted, setSlot, deferTo]

/-- The numbers after the next one is recorded: nothing is known of those after it. -/
theorem fresh_record (h : Placed st o) (outcome : Result StreamEvent) (k : Nat)
    (hk : st.nextSubmissionOrder + 1 ≤ k) :
    Function.update o st.nextSubmissionOrder (some outcome) k = none := by
  rw [Function.update_of_ne (by omega)]
  exact h.fresh k (by omega)

/-- **A submission from the callback fails**: the next number is that of the deferred error. -/
theorem defer (h : Placed st o) (hindex : index < st.count) (hvacant : Vacant st index)
    (hfailed : st.resubmitFailed = false) (error : Error) :
    Placed (deferTo st index error)
      (Function.update o st.nextSubmissionOrder (some (.error error))) := by
  have hvalid : st.deferredErrorValid = false := by
    by_contra hne
    have := (h.deferred (by simpa using hne)).1
    rw [hfailed] at this
    cases this
  have hself : (deferTo st index error).slots index = { st.slots index with
      status := .allocated, submissionOrder := st.nextSubmissionOrder } :=
    Function.update_self ..
  have hother : ∀ i, i ≠ index → (deferTo st index error).slots i = st.slots i :=
    fun i hi => Function.update_of_ne hi _ _
  have hgone : Vacant (deferTo st index error) index := by
    intro k hk
    simp only [SlotHolds, hself, reduceCtorEq, false_and, or_self, and_false] at hk
  refine ⟨?_, h.going, h.le.trans (Nat.le_succ _), fun k =>
    ?_, h.fresh_record _, fun i hi k hk => ?_,
    fun i hi k hk => ?_, fun _ => ⟨rfl, Function.update_self ..⟩⟩
  · have hset : Changed index st (st.setSlot index { st.slots index with
        status := .allocated, submissionOrder := st.nextSubmissionOrder }) := changed_setSlot st rfl
    have hdefer : Changed index st (deferTo st index error) :=
      hset.trans (changed_fields rfl rfl rfl rfl rfl)
    exact hdefer.wf hindex h.wf
  · have hslots := slotsAt_change k (deferTo st index error) hindex rfl rfl
      hother
    rw [if_neg (hvacant k), if_neg (hgone k)] at hslots
    have hlive := h.live k
    have hle := h.le
    have hold : st.deferredAt k = 0 := if_neg fun hd => absurd (hd.1.symm.trans hvalid) nofun
    have hnew : (deferTo st index error).deferredAt k =
    if st.nextSubmissionOrder = k then 1 else 0 := by
      simp only [deferredAt, deferTo, true_and]
    change (deferTo st index error).slotsAt k + st.readyAt k +
      (deferTo st index error).deferredAt k =
      if st.nextDeliveryOrder ≤ k ∧ k < st.nextSubmissionOrder + 1 then 1 else 0
    rw [hnew]
    split_ifs at hlive ⊢ <;> omega
  · rcases eq_or_ne i index with rfl | hne
    · exact absurd hk (hgone k)
    · have hk' := (slotHolds_congr (hother i hne) rfl).1 hk
      have hlt := (h.slot_range hi hk').2
      rw [Function.update_of_ne hlt.ne, note, hother i hne]
      exact h.slot i hi k hk'
  · have hlt := (h.block_range hi hk).2
    rw [Function.update_of_ne hlt.ne]
    exact h.block i hi k hk

/-- The slot of a resubmission that failed. -/
def failTo (st : StreamState) (index : Nat) (error : Error) : StreamState :=
  { st with
    slots := Function.update st.slots index { st.slots index with
      status := .completed, submissionOrder := st.nextSubmissionOrder, error := some error }
    nextSubmissionOrder := st.nextSubmissionOrder + 1
    delivered := none }

theorem release_failed {submit : Submit} (hd : st.delivered = some index)
    (hs : (st.slots index).status = .completed) (hcode : submit.code ≠ 0) :
    st.release submit =
      (failTo st index (mapLibusbError submit.code), some (mapLibusbError submit.code)) := by
  simp [release, hd, hs, hcode, submitSlot, markSubmitted, setSlot, failTo]

/-- **A submission from `wait_stream` fails**: the next number stays with the slot. -/
theorem fail (h : Placed st o) (hindex : index < st.count) (hvacant : Vacant st index)
    (error : Error) :
    Placed (failTo st index error)
      (Function.update o st.nextSubmissionOrder (some (.error error))) := by
  have hself : (failTo st index error).slots index = { st.slots index with
      status := .completed, submissionOrder := st.nextSubmissionOrder, error := some error } :=
    Function.update_self ..
  have hother : ∀ i, i ≠ index → (failTo st index error).slots i = st.slots i :=
    fun i hi => Function.update_of_ne hi _ _
  have hnew : ∀ k, (failTo st index error).SlotHolds k index ↔ st.nextSubmissionOrder = k := by
    intro k
    simp only [SlotHolds, hself]
    constructor
    · exact fun hh => hh.1
    · exact fun hh => ⟨hh, .inr ⟨trivial, hh ▸ h.le⟩⟩
  refine ⟨?_, h.going, h.le.trans (Nat.le_succ _), fun k =>
    ?_, h.fresh_record _, fun i hi k hk => ?_,
    fun i hi k hk => ?_, fun hd => ⟨(h.deferred hd).1, ?_⟩⟩
  · have hset : Changed index st (st.setSlot index { st.slots index with
        status := .completed, submissionOrder := st.nextSubmissionOrder, error := some error }) :=
      changed_setSlot st rfl
    exact (hset.wf hindex h.wf).congr (fun _ => rfl) (fun _ => rfl) rfl
      (hset.wf hindex h.wf).submitted nofun
  · have hslots := slotsAt_change k (failTo st index error) hindex rfl rfl
      hother
    rw [if_neg (hvacant k)] at hslots
    simp only [hnew k] at hslots
    have hlive := h.live k
    have hle := h.le
    change (failTo st index error).slotsAt k + st.readyAt k + st.deferredAt k =
      if st.nextDeliveryOrder ≤ k ∧ k < st.nextSubmissionOrder + 1 then 1 else 0
    split_ifs at hslots hlive ⊢ <;> omega
  · rcases eq_or_ne i index with rfl | hne
    · obtain rfl := (hnew k).1 hk
      rw [Function.update_self, note, hself, if_neg nofun]
      rfl
    · have hk' := (slotHolds_congr (hother i hne) rfl).1 hk
      have hlt := (h.slot_range hi hk').2
      rw [Function.update_of_ne hlt.ne, note, hother i hne]
      exact h.slot i hi k hk'
  · have hlt := (h.block_range hi hk).2
    rw [Function.update_of_ne hlt.ne]
    exact h.block i hi k hk
  · have hlt := (h.deferred_range hd).2
    exact (Function.update_of_ne hlt.ne _ _).trans (h.deferred hd).2

/-- The turn of a number is taken. -/
def advanceTo (st : StreamState) (delivered deliveredReady : Option Nat) (valid : Bool) :
    StreamState :=
  { st with
    nextDeliveryOrder := st.nextDeliveryOrder + 1, delivered, deliveredReady
    deferredErrorValid := valid }

/-- **A turn is taken**: the number has left its place. -/
theorem advance (h : Placed st o) (hlt : st.nextDeliveryOrder < st.nextSubmissionOrder)
    (hsub : ∀ i < st.count, (st.slots i).status = .submitted →
      (st.slots i).submissionOrder ≠ st.nextDeliveryOrder)
    {delivered deliveredReady : Option Nat} {valid : Bool}
    (hdelivered : ∀ i, delivered = some i → i < st.count)
    (hvalid : valid = true ↔
      st.deferredErrorValid = true ∧ st.deferredErrorOrder ≠ st.nextDeliveryOrder) :
    Placed (advanceTo st delivered deliveredReady valid) o := by
  have hslot : ∀ i < st.count, ∀ k, (advanceTo st delivered deliveredReady valid).SlotHolds k i ↔
      k ≠ st.nextDeliveryOrder ∧ st.SlotHolds k i := by
    intro i hi k
    have := hsub i hi
    simp only [SlotHolds, advanceTo]
    grind
  have hblock : ∀ i k, (advanceTo st delivered deliveredReady valid).BlockHolds k i ↔
      k ≠ st.nextDeliveryOrder ∧ st.BlockHolds k i := by
    intro i k
    simp only [BlockHolds, advanceTo]
    grind
  refine ⟨h.wf.congr (fun _ => rfl) (fun _ => rfl) rfl h.wf.submitted hdelivered, h.going, hlt,
    fun k => ?_, h.fresh, fun i hi k hk => h.slot i hi k ((hslot i hi k).1 hk).2,
    fun i hi k hk => h.block i hi k ((hblock i k).1 hk).2, fun hd => h.deferred (hvalid.1 hd).1⟩
  have hlive := h.live k
  have hslots : (advanceTo st delivered deliveredReady valid).slotsAt k =
      if k = st.nextDeliveryOrder then 0 else st.slotsAt k := by
    split
    next hk => exact Nat.count_iff_forall_not.2 fun i hi hh => ((hslot i hi k).1 hh).1 hk
    next hk => exact Lib.count_congr fun i hi => (hslot i hi k).trans (and_iff_right hk)
  have hready : (advanceTo st delivered deliveredReady valid).readyAt k =
      if k = st.nextDeliveryOrder then 0 else st.readyAt k := by
    split
    next hk => exact Nat.count_iff_forall_not.2 fun i _ hh => ((hblock i k).1 hh).1 hk
    next hk => exact Lib.count_congr fun i _ => (hblock i k).trans (and_iff_right hk)
  have hdeferred : (advanceTo st delivered deliveredReady valid).deferredAt k =
      if k = st.nextDeliveryOrder then 0 else st.deferredAt k := by
    simp only [deferredAt, advanceTo, hvalid]
    split_ifs <;> grind
  rw [hslots, hready, hdeferred]
  change _ = if st.nextDeliveryOrder + 1 ≤ k ∧ k < st.nextSubmissionOrder then 1 else 0
  split_ifs at hlive ⊢ <;> omega

/-- The counter of outstanding transfers, and a failure more. -/
theorem aside (h : Placed st o) (outstanding : Nat) {failed : Bool}
    (hfailed : st.resubmitFailed = true → failed = true) :
    Placed { st with outstanding, resubmitFailed := failed } o :=
  ⟨h.wf.congr (fun _ => rfl) (fun _ => rfl) rfl h.wf.submitted h.wf.delivered,
    h.going, h.le, h.live,
    h.fresh, h.slot, h.block, fun hd => ⟨hfailed (h.deferred hd).1, (h.deferred hd).2⟩⟩

theorem handed_vacant (st : StreamState) (index block : Nat) :
    Vacant (handed st index block) index := by
  intro k hk
  have hstatus := handed_status st index block
  rcases hk.2 with hh | hh
  · rw [hstatus] at hh; cases hh
  · rw [hstatus] at hh; cases hh.1

theorem handed_mark (st : StreamState) (index block : Nat) :
    (handed st index block).markSubmitted index =
    (st.handOver index block).markSubmitted index := by
  simp [handed, markSubmitted, setSlot]

theorem handed_deferTo (st : StreamState) (index block : Nat) (error : Error) :
    deferTo (handed st index block) index error =
    deferTo (st.handOver index block) index error := by
  simp [handed, deferTo, setSlot]

end

end Placed

theorem freeReady_free {st : StreamState} {block : Nat} (h : st.freeReady = some block) :
    (st.ready block).ready = false := by
  have hfree := List.find?_some h
  simp only [Bool.and_eq_true, Bool.not_eq_true'] at hfree
  exact hfree.1

theorem Slot.finish_order (slot : Slot) (genuine stopping : Bool) (transferSize : Nat)
    (status : TransferStatus) (actualLength : Int) :
    (slot.finish genuine stopping transferSize status actualLength).submissionOrder =
      slot.submissionOrder := by
  unfold Slot.finish
  split
  · rfl
  · cases status with
    | completed => simp only; split <;> rfl
    | _ => rfl

/-! ## Callbacks -/

namespace Traced

/-- The numbers of a stream are in their places. -/
def Inv (t : Traced) : Prop := Placed t.st t.outcomes

/-- Outcomes are only added, and no turn is taken. -/
structure Grows (t t' : Traced) : Prop where
  turn : t'.st.nextDeliveryOrder = t.st.nextDeliveryOrder
  outcomes : ∀ k result, t.outcomes k = some result → t'.outcomes k = some result

/-- What a part of the program does to a stream whose numbers are in their places. -/
def Good (t t' : Traced) : Prop := Inv t → Inv t' ∧ Grows t t'

section

variable {t t' t'' : Traced} {index block k : Nat}

theorem Grows.refl (t : Traced) : Grows t t := ⟨rfl, fun _ _ h => h⟩

theorem Grows.trans (h : Grows t t') (h' : Grows t' t'') : Grows t t'' :=
  ⟨h'.turn.trans h.turn, fun k result hk => h'.outcomes k result (h.outcomes k result hk)⟩

/-- What was not known is recorded. -/
theorem grows_record {st : StreamState} (hturn : st.nextDeliveryOrder = t.st.nextDeliveryOrder)
    (hnone : t.outcomes k = none) (outcome : Result StreamEvent) :
    Grows t ((t.setState st).record k outcome) := by
  refine ⟨hturn, fun k' result hk => ?_⟩
  have hne : k' ≠ k := by
    rintro rfl
    rw [hnone] at hk
    cases hk
  exact (Function.update_of_ne hne _ _).trans hk

variable {code : Int} {inner : Traced → Traced}

/-- The submission from inside the callback, of a slot whose completion was handed over. -/
theorem replenish_good {st : StreamState} (code : Int) (hinner : ∀ t, Good t (inner t)) (h : Inv t)
    (hst : t.st = Placed.handed st index block) (hindex : index < st.count)
    (hfailed : st.resubmitFailed = false) :
    Inv ((t.setState (st.handOver index block)).replenish code inner index) ∧
      Grows t ((t.setState (st.handOver index block)).replenish code inner index) := by
  have hvacant := Placed.handed_vacant st index block
  have hplaced : Placed (Placed.handed st index block) t.outcomes := hst ▸ h
  have hturn : t.st.nextDeliveryOrder = st.nextDeliveryOrder := by rw [hst]; rfl
  unfold Traced.replenish
  split
  next hcode =>
    have hmark := hplaced.mark hindex hvacant
    rw [Placed.handed_mark] at hmark
    have hgood := hinner ((t.setState (st.handOver index block)).setState
      ((st.handOver index block).markSubmitted index)) hmark
    exact ⟨hgood.1, hgood.2.turn.trans hturn.symm, hgood.2.outcomes⟩
  next hcode =>
    have hdefer := hplaced.defer hindex hvacant hfailed (mapLibusbError code)
    rw [Placed.handed_deferTo, ← Placed.replenish_failed _ _ hcode] at hdefer
    refine ⟨hdefer, grows_record (t := t) ?_ (hplaced.fresh _ le_rfl) _⟩
    rw [hturn, Placed.replenish_failed _ _ hcode]
    rfl

variable {transfer : Nat} {status : TransferStatus} {actualLength : Int}

/-- **A callback** keeps the numbers in their places. -/
theorem onTransfer_good (hinner : ∀ t, Good t (inner t)) (t : Traced) :
    Good t (t.onTransfer code inner index transfer status actualLength) := by
  intro h
  unfold Traced.onTransfer
  split
  · exact ⟨h, Grows.refl t⟩
  next hs =>
    have hs : (t.st.slots index).status = .submitted := by simpa using hs
    have hindex := h.wf.submitted index hs
    have hholds : t.st.SlotHolds (t.st.slots index).submissionOrder index := ⟨rfl, .inl hs⟩
    have hrange := h.slot_range hindex hholds
    have hnone : t.outcomes (t.st.slots index).submissionOrder = none := by
      rw [h.slot index hindex _ hholds, note, if_pos hs]
    dsimp only
    have horder : (t.st.finished index transfer status actualLength).submissionOrder =
        (t.st.slots index).submissionOrder := Slot.finish_order ..
    have hbuffer : (t.st.finished index transfer status actualLength).buffer =
        (t.st.slots index).buffer := Slot.finish_buffer ..
    have hcases := complete_cases t.st index transfer status actualLength
    generalize t.st.finished index transfer status actualLength = slot at horder hbuffer hcases
    generalize t.st.complete index transfer status actualLength = result at hcases
    -- the transfer has completed, and its number stays with the slot
    have hfinish : Placed (t.st.completeTo index slot)
        (Function.update t.outcomes slot.submissionOrder (some (t.st.outcome slot))) :=
      (h.finish { slot with status := .completed } hs rfl horder hbuffer).aside _ id
    have hgrows : ∀ st, st.nextDeliveryOrder = t.st.nextDeliveryOrder →
        Grows t ((t.record slot.submissionOrder (t.st.outcome slot)).setState st) := by
      intro st hturn
      exact grows_record hturn (horder ▸ hnone) _
    cases hcases with
    | stopped hstop => exact absurd (h.going.symm.trans hstop) nofun
    | failed => exact ⟨hfinish.aside _ fun _ => rfl, hgrows _ rfl⟩
    | kept => exact ⟨hfinish, hgrows _ rfl⟩
    | @handed _ herror hfailed block hfree =>
      obtain ⟨hblock, hdr⟩ := freeReady_spec hfree
      have hslot : (t.st.completeTo index slot).slots index = { slot with status := .completed } :=
        setSlot_self ..
      have hhand := hfinish.hand hindex (by rw [hslot]) (by rw [hslot]; exact herror)
        (by rw [hslot]; exact horder ▸ hrange.1) hblock (freeReady_free hfree) hdr
      have hgood :=
        replenish_good (t := (t.record slot.submissionOrder (t.st.outcome slot)).setState
          (Placed.handed (t.st.completeTo index slot) index block)) code hinner
        hhand rfl hindex hfailed
      exact ⟨hgood.1,
        (hgrows (Placed.handed (t.st.completeTo index slot) index block) rfl).trans hgood.2⟩

/-- **Nested callbacks** keep the numbers in their places. -/
theorem dispatch_good (d : Dispatch) : ∀ t, Good t (dispatch d t) := by
  induction d with
  | done => exact fun t h => ⟨h, Grows.refl t⟩
  | callback index transfer status actualLength code inner rest ihInner ihRest =>
    intro t h
    have hfirst : Good t (t.onTransfer code (dispatch inner) index transfer status actualLength) :=
      onTransfer_good ihInner t
    obtain ⟨hinv, hgrows⟩ := hfirst h
    have hrest := ihRest _ hinv
    exact ⟨hrest.1, hgrows.trans hrest.2⟩

/-- A slot without a number is submitted. -/
theorem submit_good (h : Inv t) (hindex : index < t.st.count) (hvacant : Placed.Vacant t.st index)
    (d : Dispatch) :
    Inv (t.submit (dispatch d) index) ∧ Grows t (t.submit (dispatch d) index) :=
  have hgood := dispatch_good d (t.setState (t.st.markSubmitted index)) (h.mark hindex hvacant)
  ⟨hgood.1, hgood.2.turn, hgood.2.outcomes⟩

/-! ## `wait_stream` -/

end

end Traced

namespace Placed

variable {st : StreamState} {o : Outcomes}

/-- The delivered ready block is given back. -/
theorem releaseReady (h : Placed st o)
    (hdelivered : ∀ i, st.deliveredReady = some i →
      (st.ready i).submissionOrder < st.nextDeliveryOrder) : Placed st.releaseReady o := by
  have hwf := h.wf.releaseReady
  unfold StreamState.releaseReady at hwf ⊢
  split at hwf
  next block hblock =>
    have hholds : ∀ i k, ({ st.setReady block { st.ready block with ready := false } with
        deliveredReady := none } : StreamState).BlockHolds k i ↔ st.BlockHolds k i := by
      intro i k
      rcases eq_or_ne i block with rfl | hne
      · have hlt := hdelivered i hblock
        simp only [BlockHolds, setReady, Function.update_self, Bool.false_eq_true,
          false_and, false_iff]
        rintro ⟨-, rfl, hle⟩
        omega
      · simp only [BlockHolds, setReady, Function.update_of_ne hne]
    refine ⟨hwf, h.going, h.le, fun k => ?_, h.fresh, h.slot, fun i hi k hk => ?_, h.deferred⟩
    · refine Eq.trans ?_ (h.live k)
      exact congrArg (fun n => st.slotsAt k + n + st.deferredAt k)
        (Lib.count_congr fun i _ => hholds i k)
    · have hk' := (hholds i k).1 hk
      rcases eq_or_ne i block with rfl | hne
      · exact absurd hk'.2.2 (by rw [← hk'.2.1]; exact Nat.not_le.2 (hdelivered i hblock))
      · simp only [setReady, Function.update_of_ne hne]
        exact h.block i hi k hk'
  · exact h

theorem notDelivered (h : Placed st o) : Placed { st with delivered := none } o :=
  ⟨h.wf.notDelivered, h.going, h.le, h.live, h.fresh, h.slot, h.block, h.deferred⟩

/-- **The completion whose turn it is**: there is none, or its outcome is returned and its turn is
taken. -/
theorem completed_cases (h : Placed st o) :
    st.completed = (st, .error .notFound) ∨
      ∃ delivered deliveredReady valid result,
        st.completed = (advanceTo st delivered deliveredReady valid, result) ∧
          o st.nextDeliveryOrder = some result ∧
          Placed (advanceTo st delivered deliveredReady valid) o ∧
          (∀ i, delivered = some i → st.delivered = some i ∨
            (st.slots i).status = .completed ∧ (st.slots i).submissionOrder =
            st.nextDeliveryOrder) ∧
          ∀ i, deliveredReady = some i → st.deliveredReady = some i ∨
            (st.ready i).submissionOrder = st.nextDeliveryOrder := by
  unfold completed
  dsimp only
  split
  next index hfind =>
    have hindex : index < st.count := List.mem_range.mp (List.mem_of_find?_eq_some hfind)
    have hspec := List.find?_some hfind
    simp only [Bool.and_eq_true, beq_iff_eq] at hspec
    have hholds : st.SlotHolds st.nextDeliveryOrder index := ⟨hspec.2, .inr ⟨hspec.1, le_rfl⟩⟩
    have hnote : o st.nextDeliveryOrder = some (st.outcome (st.slots index)) := by
      rw [h.slot index hindex _ hholds, note, if_neg (by rw [hspec.1]; nofun)]
    have hsub : ∀ i < st.count, (st.slots i).status = .submitted →
        (st.slots i).submissionOrder ≠ st.nextDeliveryOrder := by
      intro i hi hs horder
      obtain rfl := h.slot_unique hindex hi hholds ⟨horder, .inl hs⟩
      rw [hspec.1] at hs
      cases hs
    have hvalid : st.deferredErrorValid = true ↔
        st.deferredErrorValid = true ∧ st.deferredErrorOrder ≠ st.nextDeliveryOrder :=
      ⟨fun hd => ⟨hd, fun heq => (h.slot_only hindex hholds).2 ⟨hd, heq⟩⟩, fun hd => hd.1⟩
    have hlt := (h.slot_range hindex hholds).2
    right
    split
    next e herror =>
      rw [outcome, herror] at hnote
      exact ⟨st.delivered, st.deliveredReady, st.deferredErrorValid, .error e, rfl, hnote,
        h.advance hlt hsub h.wf.delivered hvalid, fun _ hi => .inl hi, fun _ hi => .inl hi⟩
    next herror =>
      rw [outcome, herror] at hnote
      refine ⟨some index, st.deliveredReady, st.deferredErrorValid, _, rfl, hnote,
        h.advance hlt hsub ?_ hvalid, ?_, fun _ hi => .inl hi⟩
      · intro i hi
        cases hi
        exact hindex
      · intro i hi
        cases hi
        exact .inr hspec
  · split
    next index hfind =>
      have hindex : index < st.count := List.mem_range.mp (List.mem_of_find?_eq_some hfind)
      have hspec := List.find?_some hfind
      simp only [Bool.and_eq_true, beq_iff_eq] at hspec
      have hholds : st.BlockHolds st.nextDeliveryOrder index := ⟨hspec.1, hspec.2, le_rfl⟩
      obtain ⟨herror, hnote⟩ := h.block index hindex _ hholds
      have hsub : ∀ i < st.count, (st.slots i).status = .submitted →
          (st.slots i).submissionOrder ≠ st.nextDeliveryOrder :=
        fun i hi hs horder => (h.block_only hindex hholds).1 i hi ⟨horder, .inl hs⟩
      have hvalid : st.deferredErrorValid = true ↔
          st.deferredErrorValid = true ∧ st.deferredErrorOrder ≠ st.nextDeliveryOrder :=
        ⟨fun hd => ⟨hd, fun heq => (h.block_only hindex hholds).2 ⟨hd, heq⟩⟩, fun hd => hd.1⟩
      have hlt := (h.block_range hindex hholds).2
      right
      rw [herror]
      refine ⟨st.delivered, some index, st.deferredErrorValid, _, rfl, hnote,
        h.advance hlt hsub h.wf.delivered hvalid, fun _ hi => .inl hi, ?_⟩
      intro i hi
      cases hi
      exact .inr hspec.2
    · split
      next hdeferred =>
        simp only [Bool.and_eq_true, beq_iff_eq] at hdeferred
        have hnote := (h.deferred hdeferred.1).2
        rw [hdeferred.2] at hnote
        have hlt := hdeferred.2 ▸ (h.deferred_range hdeferred.1).2
        have hsub : ∀ i < st.count, (st.slots i).status = .submitted →
            (st.slots i).submissionOrder ≠ st.nextDeliveryOrder :=
          fun i hi hs horder => (h.slot_only hi ⟨horder, .inl hs⟩).2 hdeferred
        right
        exact ⟨st.delivered, st.deliveredReady, false, _, rfl, hnote,
          h.advance hlt hsub h.wf.delivered ⟨nofun, fun hd => absurd hdeferred.2 hd.2⟩,
          fun _ hi => .inl hi, fun _ hi => .inl hi⟩
      · exact .inl rfl

end Placed

/-- What was delivered has had its turn. -/
structure StreamState.Settled (st : StreamState) : Prop where
  slot : ∀ i, st.delivered = some i → (st.slots i).status = .completed ∧
    (st.slots i).submissionOrder < st.nextDeliveryOrder
  block : ∀ i, st.deliveredReady = some i → (st.ready i).submissionOrder < st.nextDeliveryOrder

theorem StreamState.Settled.kept {st st' : StreamState} (h : st.Settled) (hkept : st.Kept st')
    (hturn : st'.nextDeliveryOrder = st.nextDeliveryOrder) : st'.Settled := by
  refine ⟨fun i hi => ?_, fun i hi => ?_⟩
  · have hd := hkept.delivered ▸ hi
    obtain ⟨hs, hlt⟩ := h.slot i hd
    rw [hkept.slot i hd hs, hturn]
    exact ⟨hs, hlt⟩
  · have hd := hkept.deliveredReady ▸ hi
    rw [hkept.block i hd, hturn]
    exact h.block i hd

theorem StreamState.releaseReady_fields (st : StreamState) :
    st.releaseReady.delivered = st.delivered ∧ st.releaseReady.deliveredReady = none ∧
      st.releaseReady.nextDeliveryOrder = st.nextDeliveryOrder := by
  unfold StreamState.releaseReady
  split
  · exact ⟨rfl, rfl, rfl⟩
  next hnone => exact ⟨rfl, hnone, rfl⟩

theorem StreamState.Settled.releaseReady {st : StreamState} (h : st.delivered = none) :
    st.releaseReady.Settled := by
  obtain ⟨hd, hdr, -⟩ := st.releaseReady_fields
  constructor
  · intro i hi
    rw [hd, h] at hi
    cases hi
  · intro i hi
    rw [hdr] at hi
    cases hi

namespace Traced

variable {t : Traced}

/-- What `wait_stream` can do first: it goes on, or it has failed to submit a slot again. -/
inductive Releases (t : Traced) (submit : Submit) : Traced × Option Error → Prop
  | goes {t' : Traced} (hok : ¬(t.st.delivered.isSome = true ∧ submit.code ≠ 0)) (hinv : Inv t')
      (hgrows : Grows t t') (hsettled : t'.st.Settled) : Releases t submit (t', none)
  | fails {st : StreamState} {e : Error} (hd : t.st.delivered.isSome = true)
      (hcode : submit.code ≠ 0)
      (he : e = mapLibusbError submit.code)
      (hinv : Inv ((t.setState st).record t.st.nextSubmissionOrder (.error e)))
      (hturn : st.nextDeliveryOrder = t.st.nextDeliveryOrder) (hsettled : st.Settled) :
    Releases t submit ((t.setState st).record t.st.nextSubmissionOrder (.error e), some e)

theorem release_cases (h : Inv t) (hs : t.st.Settled) (submit : Submit) :
    Releases t submit (t.release submit) := by
  unfold release
  split
  next hd =>
    refine .goes (by simp [hd]) (h.releaseReady hs.block)
      ⟨t.st.releaseReady_fields.2.2, fun _ _ hk => hk⟩ (.releaseReady hd)
  next index hd =>
    obtain ⟨hstatus, hlt⟩ := hs.slot index hd
    have hindex := h.wf.delivered index hd
    have hvacant : Placed.Vacant t.st index := by
      rintro k ⟨horder, hh | hh⟩
      · rw [hstatus] at hh; cases hh
      · omega
    rw [if_neg (by simp [hstatus])]
    split
    next hcode =>
      obtain ⟨hinv, hgrows⟩ := submit_good h hindex hvacant submit.inner
      -- the callbacks from inside the submission leave a delivered ready block alone
      have hblock : ∀ i, (t.submit (dispatch submit.inner) index).st.deliveredReady = some i →
          ((t.submit (dispatch submit.inner) index).st.ready i).submissionOrder <
            (t.submit (dispatch submit.inner) index).st.nextDeliveryOrder := by
        intro i hi
        rw [hgrows.turn]
        rw [submit_st] at hi ⊢
        obtain ⟨st₁, hchanged, -, hkept⟩ :=
          submitSlot_kept t.st 0 index (dispatch_kept submit.inner)
        rw [hkept.deliveredReady, hchanged.deliveredReady] at hi
        rw [hkept.block i (hchanged.deliveredReady.trans hi), hchanged.block i hi]
        exact hs.block i hi
      refine .goes (fun hh => hh.2 hcode) (Placed.releaseReady hinv.notDelivered hblock)
        ⟨?_, hgrows.outcomes⟩ (.releaseReady rfl)
      exact (StreamState.releaseReady_fields _).2.2.trans hgrows.turn
    next hcode =>
      have hfail := Placed.fail h hindex hvacant (mapLibusbError submit.code)
      rw [Placed.release_failed hd hstatus hcode]
      refine .fails (by simp [hd]) hcode rfl hfail rfl ⟨nofun, fun i hi => hs.block i hi⟩

end Traced

end Px4.Usb
