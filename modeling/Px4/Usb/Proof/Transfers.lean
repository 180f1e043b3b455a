import Px4.Lib.Tally
import Px4.Usb.Transfers
import Px4.Usb.Proof.Trace

/-!
# The accounts of the transfers

* `Counted`: the counter of outstanding transfers is the number of submitted slots. A slot that is
  marked submitted, and one that no longer is, keep this (`Counted.mark`, `Counted.unmark`), so the
  callbacks, `wait_stream` and `start_stream` do.
* `Drains`: a thread that comes to the loop of `cancel_and_drain_locked` goes on, abandons the
  stream with transfers outstanding, or destroys it with none.
* `Moves`: what a step can do to the stream and to what was freed (`Host.step_moves`).
* `transfers_accounted`: in every run every state reached has its accounts in order (`Accounted`).
-/

namespace Px4.Usb

open StreamState

/-! ## The counter -/

/-- The counter of a stream is the number of its submitted slots. -/
structure Counted (st : StreamState) : Prop where
  wf : st.Wf
  outstanding : st.outstanding = st.submitted

namespace Counted

variable {st : StreamState} {index : Nat}

theorem submitted_change (st' : StreamState) (hindex : index < st.count)
    (hcount : st'.count = st.count) (hslots : ∀ i, i ≠ index → st'.slots i = st.slots i) :
    st'.submitted + (if (st.slots index).status = .submitted then 1 else 0) =
      st.submitted + (if (st'.slots index).status = .submitted then 1 else 0) := by
  unfold StreamState.submitted
  rw [hcount]
  exact Lib.count_change (p := fun i => (st.slots i).status = .submitted)
    (q := fun i => (st'.slots i).status = .submitted) hindex fun i hi => by rw [hslots i hi]

/-- The statuses stay as they are. -/
theorem congr {st' : StreamState} (h : Counted st) (hwf : st'.Wf) (hcount : st'.count = st.count)
    (hout : st'.outstanding = st.outstanding)
    (hstatus : ∀ i, (st'.slots i).status = (st.slots i).status) : Counted st' := by
  refine ⟨hwf, ?_⟩
  rw [hout, h.outstanding]
  unfold StreamState.submitted
  rw [hcount]
  exact Lib.count_congr fun i _ => by rw [hstatus i]

/-- A slot is marked submitted. -/
theorem mark (h : Counted st) (hindex : index < st.count)
    (hs : (st.slots index).status ≠ .submitted) : Counted (st.markSubmitted index) := by
  refine ⟨(changed_markSubmitted st index).wf hindex h.wf, ?_⟩
  have hself : ((st.markSubmitted index).slots index).status = .submitted :=
    congrArg Slot.status (setSlot_self ..)
  have hchange := submitted_change (st.markSubmitted index) hindex rfl
    fun i hi => setSlot_of_ne st hi
  rw [if_neg hs, if_pos hself] at hchange
  have hout := h.outstanding
  show st.outstanding + 1 = _
  omega

/-- A slot is no longer submitted. -/
theorem unmark (h : Counted st) (hs : (st.slots index).status = .submitted) (slot : Slot)
    (hslot : slot.status ≠ .submitted) (hbuffer : slot.buffer = (st.slots index).buffer) :
    Counted (({ st with outstanding := st.outstanding - 1 } : StreamState).setSlot index slot) := by
  have hindex := h.wf.submitted index hs
  have hset : Changed index { st with outstanding := st.outstanding - 1 }
      (({ st with outstanding := st.outstanding - 1 } : StreamState).setSlot index slot) :=
    changed_setSlot _ hbuffer
  have hfields : Changed index st { st with outstanding := st.outstanding - 1 } :=
    changed_fields rfl rfl rfl rfl rfl
  refine ⟨(hfields.trans hset).wf hindex h.wf, ?_⟩
  have hself : ((({ st with outstanding := st.outstanding - 1 } : StreamState).setSlot index
      slot).slots index).status ≠ .submitted := by
    rw [setSlot_self]
    exact hslot
  have hchange := submitted_change (({ st with
    outstanding := st.outstanding - 1 } : StreamState).setSlot index slot) hindex rfl
    fun i hi => setSlot_of_ne _ hi
  rw [if_pos hs, if_neg hself] at hchange
  have hout := h.outstanding
  show st.outstanding - 1 = _
  omega

/-- A submission that fails leaves the counter as it was. -/
theorem failed (h : Counted st) (hindex : index < st.count)
    (hs : (st.slots index).status ≠ .submitted) {code : Int} (hcode : code ≠ 0)
    (inner : StreamState → StreamState) (f : Slot → Slot)
    (hslot : (f ((st.markSubmitted index).slots index)).status ≠ .submitted)
    (hbuffer : ∀ slot, (f slot).buffer = slot.buffer) :
    Counted ((st.submitSlot code inner index).setSlot index
      (f ((st.submitSlot code inner index).slots index))) := by
  have hsubmitted : ((st.markSubmitted index).slots index).status = .submitted :=
    congrArg Slot.status (setSlot_self ..)
  have hunmark := (h.mark hindex hs).unmark hsubmitted
    (f ((st.markSubmitted index).slots index)) hslot
    (hbuffer _)
  simpa only [submitSlot, if_neg hcode] using hunmark

end Counted

/-! ## Callbacks -/

section

variable {st : StreamState} {code : Int} {inner : StreamState → StreamState} {index transfer : Nat}
  {status : TransferStatus} {actualLength : Int}

theorem Counted.submitSlot (h : Counted st) (hindex : index < st.count)
    (hs : (st.slots index).status ≠ .submitted) (hinner : ∀ st, Counted st → Counted (inner st)) :
    Counted (st.submitSlot 0 inner index) :=
  hinner _ (h.mark hindex hs)

/-- **A callback** keeps the counter right. -/
theorem Counted.onTransfer (hinner : ∀ st, Counted st → Counted (inner st)) (h : Counted st) :
    Counted (Usb.onTransfer code inner index transfer status actualLength st) := by
  rw [onTransfer_eq]
  split
  · exact h
  next hs =>
    have hs : (st.slots index).status = .submitted := by simpa using hs
    have hindex := h.wf.submitted index hs
    have hbuffer : (st.finished index transfer status actualLength).buffer =
        (st.slots index).buffer := Slot.finish_buffer ..
    have hcases := complete_cases st index transfer status actualLength
    generalize st.complete index transfer status actualLength = result at hcases
    generalize st.finished index transfer status actualLength = slot at hcases hbuffer
    have hcompleted : Counted (st.completeTo index slot) :=
      h.unmark hs { slot with status := .completed } (by rintro ⟨⟩) hbuffer
    cases hcases with
    | stopped => exact h.unmark hs { slot with status := .allocated } (by rintro ⟨⟩) hbuffer
    | failed =>
      refine hcompleted.congr ?_ rfl rfl fun _ => rfl
      exact hcompleted.wf.congr (fun _ => rfl) (fun _ => rfl) rfl hcompleted.wf.submitted
        hcompleted.wf.delivered
    | kept => exact hcompleted
    | @handed _ _ _ block hfree =>
      obtain ⟨hblock, hdr⟩ := freeReady_spec hfree
      have hover : Changed index (st.completeTo index slot)
          ((st.completeTo index slot).handOver index block) := changed_handOver hblock hdr
      have hstatus : ∀ i, (((st.completeTo index slot).handOver index block).slots i).status =
          ((st.completeTo index slot).slots i).status := by
        intro i
        rcases eq_or_ne i index with rfl | hne
        · rw [handOver, setSlot_self]
        · rw [hover.slot i hne]
      have hhanded := hcompleted.congr (hover.wf hindex hcompleted.wf) rfl rfl hstatus
      have hfinished : (((st.completeTo index slot).handOver index block).slots index).status ≠
          .submitted := by
        rw [hstatus, completeTo, setSlot_self]
        rintro ⟨⟩
      dsimp only
      unfold replenish
      dsimp only
      split
      next hcode =>
        rw [hcode]
        exact hhanded.submitSlot hindex hfinished hinner
      next hcode =>
        have hfailed := hhanded.failed hindex hfinished hcode inner
          (fun slot => { slot with status := .allocated }) (by rintro ⟨⟩) fun _ => rfl
        refine hfailed.congr ?_ rfl rfl fun _ => rfl
        exact hfailed.wf.congr (fun _ => rfl) (fun _ => rfl) rfl hfailed.wf.submitted
          hfailed.wf.delivered

/-- **Nested callbacks** keep the counter right. -/
theorem dispatch_counted (d : Dispatch) : ∀ st, Counted st → Counted (dispatch d st) := by
  induction d with
  | done => exact fun _ h => h
  | callback index transfer status actualLength code inner rest ihInner ihRest =>
    intro st h
    exact ihRest _ (h.onTransfer ihInner)

/-! ## `wait_stream` and `start_stream` -/

theorem Counted.releaseReady (h : Counted st) : Counted st.releaseReady := by
  refine h.congr h.wf.releaseReady ?_ ?_ ?_
  all_goals
    unfold StreamState.releaseReady
    cases st.deliveredReady <;> intros <;> rfl

theorem Counted.notDelivered (h : Counted st) :
    Counted ({ st with delivered := none } : StreamState) :=
  h.congr h.wf.notDelivered rfl rfl fun _ => rfl

theorem Counted.release (h : Counted st) (submit : Submit) : Counted (st.release submit).1 := by
  unfold StreamState.release
  split
  · exact h.releaseReady
  next slot hdelivered =>
    have hslot := h.wf.delivered slot hdelivered
    split
    · exact h
    next hcompleted =>
      have hs : (st.slots slot).status ≠ .submitted := by simp_all
      dsimp only
      split
      next hcode =>
        rw [hcode]
        exact (h.submitSlot hslot hs (dispatch_counted submit.inner)).notDelivered.releaseReady
      next hcode =>
        exact (h.failed hslot hs hcode (dispatch submit.inner)
          (fun slot => { slot with status := .completed, error := some (mapLibusbError submit.code) })
          nofun fun _ => rfl).notDelivered

theorem Counted.completed (h : Counted st) : Counted st.completed.1 := by
  refine h.congr (completed_spec h.wf).1 ?_ ?_ ?_
  all_goals
    unfold StreamState.completed
    dsimp only
    split
    · split <;> intros <;> rfl
    · split
      · split <;> intros <;> rfl
      · split <;> intros <;> rfl

/-- The slots that are still to be submitted are not. -/
theorem startSlots_counted (env : StartEnv) :
    ∀ (indices : List Nat) {st : StreamState}, Counted st →
    indices.Nodup → (∀ i ∈ indices, i < st.count ∧ (st.slots i).status ≠ .submitted) →
      Counted (startSlots env st indices).1 := by
  intro indices
  induction indices with
  | nil => exact fun h _ _ => h
  | cons index rest ih =>
    intro st h hnodup hrest
    obtain ⟨hnotin, hnodup⟩ := List.nodup_cons.1 hnodup
    obtain ⟨hindex, hs⟩ := hrest index (List.mem_cons_self ..)
    have htransfer : Changed index st (st.setTransfer index (env.transfer index)) :=
      changed_setSlot st rfl
    have hstatus : ∀ i, ((st.setTransfer index (env.transfer index)).slots i).status =
        (st.slots i).status := by
      intro i
      rcases eq_or_ne i index with rfl | hne
      · rw [setTransfer, setSlot_self]
      · rw [htransfer.slot i hne]
    have h' := h.congr (htransfer.wf hindex h.wf) rfl rfl hstatus
    have hs' := hs
    rw [← hstatus index] at hs'
    simp only [startSlots]
    split
    · exact h'
    split
    next hcode =>
      exact h'.failed hindex hs' hcode _ (fun slot => { slot with status := .allocated })
        (by rintro ⟨⟩)
        fun _ => rfl
    next hcode =>
      have hcode : (env.submit index).code = 0 := by simpa using hcode
      have hnext := h'.submitSlot hindex hs' (dispatch_counted (env.submit index).inner)
      rw [hcode]
      refine ih hnext hnodup fun i hi => ?_
      obtain ⟨hlt, hsi⟩ := hrest i (List.mem_cons_of_mem index hi)
      have hne : i ≠ index := by
        rintro rfl
        exact hnotin hi
      rw [← hstatus i] at hsi
      have hcount : ((st.setTransfer index (env.transfer index)).submitSlot 0
          (dispatch (env.submit index).inner) index).count = st.count :=
        (dispatch_kept (env.submit index).inner _).count
      rw [hcount, submitSlot_idle 0 (dispatch_idle (env.submit index).inner) _ hne hsi]
      exact ⟨hlt, hsi⟩

theorem create_counted (base count : Nat) (env : StartEnv) :
    Counted (StreamState.create base count env) := by
  refine ⟨Transport.create_wf base count env, ?_⟩
  exact (Nat.count_iff_forall_not.2 nofun).symm

end

/-! ## What a step can do -/

/-- The stream is gone, and no other one was leaked. -/
structure Gone (t t' : Transport) : Prop where
  stream : t'.stream = none
  leaked : t'.leaked = t.leaked
  abandoned : t'.abandoned = t.abandoned

/-- What a thread that comes to the drain loop can do. -/
inductive Drains (t : Transport) : Transport × DrainOutcome → Prop
  | idle {t' : Transport} {result : Result Unit} (hst : t.stream = none) (hgone : Gone t t') :
    Drains t (t', .ended result)
  | again {st : StreamState} (hst : t.stream = some st) (hout : st.outstanding ≠ 0)
      (stopping : Bool)
      (d : Drain) :
    Drains t ({ t with stream := some { st with stopping } }, .again d)
  | leak {st : StreamState} {t' : Transport} {result : Result Unit} (hst : t.stream = some st)
      (hout : st.outstanding ≠ 0) (stopping : Bool) (hnone : t'.stream = none)
      (hleaked : t'.leaked = some { st with stopping }) (habandoned : t'.abandoned = true) :
    Drains t (t', .ended result)
  | free {st : StreamState} {t' : Transport} {result : Result Unit} (hst : t.stream = some st)
      (hout : st.outstanding = 0) (hgone : Gone t t') : Drains t (t', .ended result)

theorem drainCheck_drains (t : Transport) (env : CancelEnv) (d : Drain) :
    Drains t (t.drainCheck env d) := by
  unfold Transport.drainCheck
  split
  next hst => exact .idle hst ⟨hst, rfl, rfl⟩
  next st hst =>
    split
    next hout =>
      have heq : t = { t with stream := some { st with stopping := st.stopping } } := by rw [← hst]
      nth_rewrite 2 [heq]
      exact .again hst hout.1 st.stopping d
    split
    next hout => exact .leak hst hout st.stopping rfl rfl rfl
    next hout => exact .free hst (by simpa using hout) ⟨rfl, rfl, rfl⟩

theorem cancelAndDrain_drains (t : Transport) (env : CancelEnv) :
    Drains t (t.cancelAndDrain env) := by
  unfold Transport.cancelAndDrain
  split
  next hst => exact .idle hst ⟨hst, rfl, rfl⟩
  next st hst =>
    have hdrains := drainCheck_drains { t with stream := some { st with stopping := true } } env
      { firstError := Transport.cancelError env st }
    generalize Transport.drainCheck _ env _ = outcome at hdrains
    cases hdrains with
    | idle hnone => cases hnone
    | again hst' hout stopping d =>
      cases hst'
      exact .again hst hout stopping d
    | leak hst' hout stopping hnone hleaked habandoned =>
      cases hst'
      exact .leak hst hout stopping hnone hleaked habandoned
    | free hst' hout hgone =>
      cases hst'
      exact .free hst hout ⟨hgone.stream, hgone.leaked, hgone.abandoned⟩

/-- What a step can do to the stream and to what was freed. -/
inductive Moves (s s' : Host) : Prop
  | same (ht : s'.transport = s.transport) (hfreed : s'.freed = s.freed)
  | live {st st' : StreamState} (hst : s.transport.stream = some st)
      (ht : s'.transport = { s.transport with stream := some st' })
      (hcounted : Counted st → Counted st') (hfreed : s'.freed = s.freed)
  | late {st st' : StreamState} (hnone : s.transport.stream = none)
      (hst : s.transport.leaked = some st)
      (ht : s'.transport = { s.transport with leaked := some st' })
      (hcounted : Counted st → Counted st') (hfreed : s'.freed = s.freed)
  | idle (hst : s.transport.stream = none) (hgone : Gone s.transport s'.transport)
      (hfreed : s'.freed = s.freed)
  | begun {st : StreamState} (hnone : s.transport.stream = none)
      (habandoned : s.transport.abandoned = false) (hcounted : Counted st) (nextBuffer : Nat)
      (ht : s'.transport = { s.transport with stream := some st, active := true, nextBuffer })
      (hfreed : s'.freed = s.freed)
  | leak {st : StreamState} (hst : s.transport.stream = some st) (hout : st.outstanding ≠ 0)
      (stopping : Bool) (hnone : s'.transport.stream = none)
      (hleaked : s'.transport.leaked = some { st with stopping })
      (habandoned : s'.transport.abandoned = true) (hfreed : s'.freed = s.freed)
  | free {st : StreamState} (hst : s.transport.stream = some st) (hout : st.outstanding = 0)
      (hgone : Gone s.transport s'.transport) (hfreed : s'.freed = s.freed ++ st.transfers)

namespace Host

variable {s : Host}

theorem finishClose_transport (hst : s.transport.stream = none) :
    s.finishClose.transport = s.transport ∧ s.finishClose.freed = s.freed := by
  unfold finishClose
  rw [hst]
  exact ⟨rfl, rfl⟩

/-- A drain that has ended, also that of the destructor. -/
theorem drained_ended {t : Transport} (hst : t.stream = none) (result : Result Unit) :
    (s.drained (t, .ended result)).transport = t ∧
      (s.drained (t, .ended result)).freed = s.freed ++ s.transport.destroys := by
  unfold drained
  dsimp only
  split
  · exact finishClose_transport hst
  · exact ⟨rfl, rfl⟩

/-- A thread that comes to the drain loop, with what it frees there. -/
theorem moves_of_drains {s' : Host} {o : DrainOutcome}
    (hd : Drains s.transport (s'.transport, o))
    (hfreed : s'.freed = s.freed ++ s.transport.destroys) : Moves s s' := by
  unfold Transport.destroys at hfreed
  generalize ht : s'.transport = t' at hd
  cases hd with
  | idle hst hgone =>
    rw [hst, List.append_nil] at hfreed
    exact .idle hst (ht ▸ hgone) hfreed
  | again hst hout stopping d =>
    simp only [hst, if_neg hout, List.append_nil] at hfreed
    refine .live hst ht (fun h => ?_) hfreed
    exact h.congr (h.wf.congr (fun _ => rfl)
      (fun _ => rfl) rfl h.wf.submitted h.wf.delivered) rfl rfl
      fun _ => rfl
  | leak hst hout stopping hnone hleaked habandoned =>
    simp only [hst, if_neg hout, List.append_nil] at hfreed
    exact .leak hst hout stopping (ht ▸ hnone) (ht ▸ hleaked) (ht ▸ habandoned) hfreed
  | free hst hout hgone =>
    simp only [hst, if_pos hout] at hfreed
    exact .free hst hout (ht ▸ hgone) hfreed

theorem drained_moves (closing : Bool) {outcome : Transport × DrainOutcome}
    (hd : Drains s.transport outcome) : Moves s ({ s with closing }.drained outcome) := by
  obtain ⟨t', outcome⟩ := outcome
  cases outcome with
  | again d =>
    refine moves_of_drains hd ?_
    cases hd with
    | again hst hout => simp [drained, Transport.destroys, hst, hout]
  | ended result =>
    have hnone : t'.stream = none := by
      cases hd with
      | idle _ hgone => exact hgone.stream
      | leak _ _ _ hnone => exact hnone
      | free _ _ hgone => exact hgone.stream
    obtain ⟨ht, hfreed⟩ := drained_ended (s := { s with closing }) hnone result
    refine moves_of_drains (o := .ended result) ?_ hfreed
    rw [ht]
    exact hd

end Host

/-! ### Starting -/

namespace Transport

variable (t : Transport) (config : StreamConfig) (env : StartEnv)

/-- A transport with a new stream. -/
def begun (st : StreamState) : Transport :=
  { t with
    stream := some st, active := true, nextBuffer := t.nextBuffer + 2 * config.transferCount }

/-- `start_stream`, cut after its submissions. -/
theorem startStream_eq : t.startStream config env =
    match t.startBegin config env with
    | .error e => (t, .ended (.error e))
    | .ok (st, none) => (t.begun config st, .ended (.ok ()))
    | .ok (st, some e) => (t.begun config st).startFailed env e := by
  unfold startStream startBegin
  dsimp only
  split_ifs <;> try rfl
  generalize startSlots env _ _ = started
  obtain ⟨st, _ | e⟩ := started <;> rfl

variable {t config env} in
theorem startBegin_spec {result : StreamState × Option Error}
    (h : t.startBegin config env = .ok result) :
    Counted result.1 ∧ t.abandoned = false ∧ t.active = false := by
  have hcreate := create_counted t.nextBuffer config.transferCount env
  have hslots := startSlots_counted env (List.range config.transferCount) hcreate List.nodup_range
    fun i hi => ⟨List.mem_range.1 hi, nofun⟩
  unfold startBegin at h
  dsimp only at h
  split at h
  · cases h
  split at h
  · cases h
  next habandoned =>
    have habandoned : t.abandoned = false := by simp_all
    split at h
    · cases h
    next hactive =>
      have hactive : t.active = false := by simpa using hactive
      refine ⟨?_, habandoned, hactive⟩
      split at h
      · cases h
      split at h
      · cases h
        exact hcreate
      split at h
      · cases h
        exact hcreate
      · cases h
        exact hslots

end Transport

namespace Host

variable {s : Host}

/-- **`start_stream`** is refused, or there is a stream, which a failure drains. -/
theorem start_moves (hactive : s.transport.active = false → s.transport.stream = none)
    (config : StreamConfig) (env : StartEnv) :
    Moves s (s.start config env) ∨
      ∃ s₁, s.transport.stream = none ∧ s.transport.abandoned = false ∧ Moves s s₁ ∧
        Moves s₁ (s.start config env) := by
  unfold start
  rw [Transport.startStream_eq]
  cases hbegin : s.transport.startBegin config env with
  | error e => exact .inl (.same rfl rfl)
  | ok result =>
    obtain ⟨hcounted, habandoned, hidle⟩ := Transport.startBegin_spec hbegin
    obtain ⟨st, failure⟩ := result
    have hnone := hactive hidle
    cases failure with
    | none => exact .inl (.begun hnone habandoned hcounted _ rfl rfl)
    | some e =>
      have hdrains := cancelAndDrain_drains (s.transport.begun config st) env.cancel
      refine .inr ⟨{ s with transport := s.transport.begun config st }, hnone, habandoned,
        .begun hnone habandoned hcounted _ rfl rfl, ?_⟩
      dsimp only
      unfold Transport.startFailed
      generalize (s.transport.begun config st).cancelAndDrain env.cancel = outcome at hdrains
      obtain ⟨t', d | result⟩ := outcome
      · exact moves_of_drains hdrains rfl
      · exact moves_of_drains hdrains rfl

theorem onTransfer_moves (c : Completion) :
    Moves s { s with transport := s.transport.onTransfer c } := by
  have hcounted (st : StreamState) (h : Counted st) : Counted (onTransfer c.submit.code
      (dispatch c.submit.inner) c.index c.transfer c.status c.actualLength st) :=
    h.onTransfer (dispatch_counted c.submit.inner)
  cases hst : s.transport.stream with
  | some st =>
    refine .live hst ?_ (hcounted st) rfl
    simp only [Transport.onTransfer, hst]
  | none =>
    cases hleaked : s.transport.leaked with
    | none => exact .idle hst (by simp [Transport.onTransfer, hst, hleaked, Gone.mk]) rfl
    | some st =>
      refine .late hst hleaked ?_ (hcounted st) rfl
      simp only [Transport.onTransfer, hst, hleaked, Option.map_some]

theorem waitEnter_moves (submit : Submit) :
    Moves s { s with transport := (s.transport.waitEnter submit).1 } := by
  unfold Transport.waitEnter
  split
  next st _ hst =>
    split
    · exact .same rfl rfl
    have hrelease (h : Counted st) := h.release submit
    split
    next st' e heq =>
      rw [heq] at hrelease
      exact .live hst rfl hrelease rfl
    next st' heq =>
      rw [heq] at hrelease
      have hcompleted (h : Counted st) := (hrelease h).completed
      split <;> rename_i heq' <;> rw [heq'] at hcompleted <;> exact .live hst rfl hcompleted rfl
  · exact .same rfl rfl

theorem waitResume_moves (eventResult : Int) :
    Moves s { s with transport := (s.transport.waitResume eventResult).1 } := by
  unfold Transport.waitResume
  split
  · exact .same rfl rfl
  split
  next st _ hst =>
    split
    · exact .same rfl rfl
    have hcompleted (h : Counted st) := h.completed
    split <;> rename_i heq <;> rw [heq] at hcompleted <;> exact .live hst rfl hcompleted rfl
  · exact .same rfl rfl

/-- **What a step can do**: one move, or the two of a start that fails. -/
theorem step_moves (hactive : s.transport.active = false → s.transport.stream = none) (act : Act) :
    Moves s (s.step act) ∨
      ∃ s₁, s.transport.stream = none ∧ s.transport.abandoned = false ∧ Moves s s₁ ∧
        Moves s₁ (s.step act) := by
  cases act with
  | start config env =>
    simp only [step]
    split
    · exact .inl (.same rfl rfl)
    · exact start_moves hactive config env
  | callback c => exact .inl (onTransfer_moves c)
  | wait submit => exact .inl (waitEnter_moves submit)
  | resume eventResult => exact .inl (waitResume_moves eventResult)
  | cancel env =>
    simp only [step]
    split
    · exact .inl (.same rfl rfl)
    next hidle =>
      have hactive : s.transport.active = true := by simp_all
      have heq : s.transport.cancelStream env = s.transport.cancelAndDrain env := by
        simp [Transport.cancelStream, hactive]
      rw [heq]
      exact .inl (drained_moves s.closing (cancelAndDrain_drains s.transport env))
  | drain env =>
    simp only [step]
    split
    · exact .inl (drained_moves s.closing (drainCheck_drains s.transport env _))
    · exact .inl (.same rfl rfl)
  | close env =>
    simp only [step]
    split
    · exact .inl (.same rfl rfl)
    split
    · exact .inl (drained_moves true (cancelAndDrain_drains s.transport env))
    next hidle =>
      obtain ⟨ht, hfreed⟩ := finishClose_transport (hactive (by simpa using hidle))
      exact .inl (.same ht hfreed)

end Host

/-! ## Runs -/

/-- The streams are counted, none is left on an abandoned transport, and nothing submitted was
freed. -/
structure Safe (s : Host) : Prop where
  stream : ∀ st, s.transport.stream = some st →
    Counted st ∧ s.transport.active = true ∧ s.transport.abandoned = false
  leaked : ∀ st, s.transport.leaked = some st → Counted st ∧ s.transport.abandoned = true
  unsubmitted : ∀ entry ∈ s.freed, entry.2 ≠ .submitted

section

variable {s s' : Host}

theorem Safe.idle (h : Safe s) (hactive : s.transport.active = false) :
    s.transport.stream = none := by
  rw [Option.eq_none_iff_forall_ne_some]
  intro st hst
  rw [(h.stream st hst).2.1] at hactive
  cases hactive

theorem Safe.gone (h : Safe s) (habandoned : s.transport.abandoned = true) :
    s.transport.stream = none := by
  rw [Option.eq_none_iff_forall_ne_some]
  intro st hst
  rw [(h.stream st hst).2.2] at habandoned
  cases habandoned

/-- A stream with nothing outstanding has no transfer that is submitted. -/
theorem Counted.transfers {st : StreamState} (h : Counted st) (hout : st.outstanding = 0) :
    ∀ entry ∈ st.transfers, entry.2 ≠ .submitted := by
  have hnone := Nat.count_iff_forall_not.1 (h.outstanding.symm.trans hout)
  intro entry hentry
  obtain ⟨i, hi, hmap⟩ := List.mem_filterMap.1 hentry
  obtain ⟨transfer, -, rfl⟩ := Option.map_eq_some_iff.1 hmap
  exact hnone i (List.mem_range.1 hi)

theorem Moves.safe (h : Safe s) (hmoves : Moves s s') : Safe s' := by
  have hsame (hfreed : s'.freed = s.freed) : ∀ entry ∈ s'.freed, entry.2 ≠ .submitted := by
    rw [hfreed]
    exact h.unsubmitted
  have hgone (hgone : Gone s.transport s'.transport) :
      ∀ st, s'.transport.leaked = some st → Counted st ∧ s'.transport.abandoned = true := by
    rw [hgone.leaked, hgone.abandoned]
    exact h.leaked
  cases hmoves with
  | same ht hfreed => exact ⟨ht ▸ h.stream, ht ▸ h.leaked, hsame hfreed⟩
  | live hst ht hcounted hfreed =>
    obtain ⟨hc, hactive, habandoned⟩ := h.stream _ hst
    refine ⟨?_, ?_, hsame hfreed⟩
    · rw [ht]
      rintro _ ⟨⟩
      exact ⟨hcounted hc, hactive, habandoned⟩
    · rw [ht]
      exact h.leaked
  | late hnone hst ht hcounted hfreed =>
    obtain ⟨hc, habandoned⟩ := h.leaked _ hst
    refine ⟨?_, ?_, hsame hfreed⟩
    · rw [ht]
      exact h.stream
    · rw [ht]
      rintro _ ⟨⟩
      exact ⟨hcounted hc, habandoned⟩
  | idle hst hg hfreed => exact ⟨by rw [hg.stream]; nofun, hgone hg, hsame hfreed⟩
  | begun hnone habandoned hcounted nextBuffer ht hfreed =>
    refine ⟨?_, ?_, hsame hfreed⟩
    · rw [ht]
      rintro _ ⟨⟩
      exact ⟨hcounted, rfl, habandoned⟩
    · rw [ht]
      exact h.leaked
  | leak hst hout stopping hnone hleaked habandoned hfreed =>
    refine ⟨by rw [hnone]; nofun, ?_, hsame hfreed⟩
    rw [hleaked]
    rintro _ ⟨⟩
    obtain ⟨hc, -, -⟩ := h.stream _ hst
    refine ⟨hc.congr ?_ rfl rfl fun _ => rfl, habandoned⟩
    exact hc.wf.congr (fun _ => rfl) (fun _ => rfl) rfl hc.wf.submitted hc.wf.delivered
  | free hst hout hg hfreed =>
    refine ⟨by rw [hg.stream]; nofun, hgone hg, ?_⟩
    intro entry hentry
    rw [hfreed, List.mem_append] at hentry
    rcases hentry with hentry | hentry
    · exact h.unsubmitted entry hentry
    · exact (h.stream _ hst).1.transfers hout entry hentry

theorem Safe.step (h : Safe s) (act : Host.Act) : Safe (s.step act) := by
  rcases Host.step_moves h.idle act with hmoves | ⟨s₁, -, -, hbegun, hmoves⟩
  · exact hmoves.safe h
  · exact hmoves.safe (hbegun.safe h)

theorem run_safe (acts : List Host.Act) : Safe (Host.run acts) := by
  have hinit : Safe {} := ⟨nofun, nofun, nofun⟩
  exact List.foldlRecOn acts Host.step hinit fun s h act _ => h.step act

/-! ## The accounts -/

/-- A stream that ends with transfers outstanding is abandoned. -/
theorem Safe.abandons (h : Safe s) (act : Host.Act) {st : StreamState}
    (hst : s.transport.stream = some st) (hout : st.outstanding ≠ 0)
    (hnone : (s.step act).transport.stream = none) :
    (s.step act).transport.abandoned = true ∧ (s.step act).freed = s.freed ∧
      ∃ st', (s.step act).transport.leaked = some st' ∧ st'.slots = st.slots := by
  rcases Host.step_moves h.idle act with hmoves | ⟨s₁, hidle, -⟩
  · cases hmoves with
    | same ht => rw [ht, hst] at hnone; cases hnone
    | live _ ht => rw [ht] at hnone; cases hnone
    | late hidle | idle hidle | begun hidle => rw [hst] at hidle; cases hidle
    | leak hst' _ stopping _ hleaked habandoned hfreed =>
      cases hst.symm.trans hst'
      exact ⟨habandoned, hfreed, _, hleaked, rfl⟩
    | free hst' hzero =>
      cases hst.symm.trans hst'
      exact absurd hzero hout
  · rw [hst] at hidle
    cases hidle

/-- An abandoned transport stays so, and frees nothing. -/
theorem Safe.stays (h : Safe s) (habandoned : s.transport.abandoned = true) (act : Host.Act) :
    (s.step act).transport.abandoned = true ∧ (s.step act).freed = s.freed := by
  have hnone := h.gone habandoned
  rcases Host.step_moves h.idle act with hmoves | ⟨s₁, -, hgoing, -⟩
  · cases hmoves with
    | same ht hfreed => exact ⟨ht ▸ habandoned, hfreed⟩
    | live hst | leak hst | free hst => rw [hnone] at hst; cases hst
    | late _ _ ht _ hfreed => exact ⟨by rw [ht]; exact habandoned, hfreed⟩
    | idle _ hgone hfreed => exact ⟨hgone.abandoned.trans habandoned, hfreed⟩
    | begun _ hgoing => rw [habandoned] at hgoing; cases hgoing
  · rw [habandoned] at hgoing
    cases hgoing

end

namespace Transport

variable {t : Transport}

theorem startStream_abandoned (h : t.abandoned = true) (config : StreamConfig) (env : StartEnv) :
    ∃ e, (t.startStream config env).2 = .ended (.error e) := by
  rw [startStream_eq]
  cases hbegin : t.startBegin config env with
  | error e => exact ⟨e, rfl⟩
  | ok result =>
    have hgoing := (startBegin_spec hbegin).2.1
    rw [h] at hgoing
    cases hgoing

theorem bulkRead_abandoned (h : t.abandoned = true) (endpoint : UInt8) (output : BulkView)
    (env : BulkEnv) : ∃ e, (t.bulkRead endpoint output env).1 = .error e := by
  unfold bulkRead
  split
  · exact ⟨_, rfl⟩
  · rw [h, Bool.true_or, Bool.true_or, if_pos rfl]
    exact ⟨_, rfl⟩

theorem bulkWrite_abandoned (h : t.abandoned = true) (endpoint : UInt8) (input : BulkView)
    (env : BulkEnv) : ∃ e, t.bulkWrite endpoint input env = .error e := by
  unfold bulkWrite
  split
  · exact ⟨_, rfl⟩
  · rw [h, Bool.true_or, if_pos rfl]
    exact ⟨_, rfl⟩

end Transport

/-- **Every run keeps the accounts of its transfers.** -/
theorem transfers_accounted (acts : List Host.Act) : Accounted (Host.run acts) := by
  have h := run_safe acts
  generalize Host.run acts = s at h
  constructor
  · rintro st (hst | hst)
    · exact (h.stream st hst).1.outstanding
    · exact (h.leaked st hst).1.outstanding
  · exact h.unsubmitted
  · exact fun act st hst hout hnone => h.abandons act hst hout hnone
  · exact fun habandoned act => h.stays habandoned act
  · intro habandoned
    exact ⟨Transport.startStream_abandoned habandoned, Transport.bulkRead_abandoned habandoned,
      Transport.bulkWrite_abandoned habandoned⟩

end Px4.Usb
