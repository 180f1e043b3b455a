import Px4.Usb.Order
import Px4.Usb.Proof.Buffers

/-!
# The traced functions

* `complete_cases`: what a callback can do up to its submission.
* `Traced.onTransfer_st`, `Traced.release_st`, `Traced.startSlots_st`: the traced functions do to
  the stream what those of `Px4.Usb.Stream` do; `Reader.wait_transport`, `Reader.resume_transport`:
  so do the calls of the reader.
* `dispatch_idle`: callbacks leave a slot alone that libusb does not have.
-/

namespace Px4.Usb

open StreamState

theorem StreamState.setSlot_self (st : StreamState) (index : Nat) (slot : Slot) :
    (st.setSlot index slot).slots index = slot :=
  Function.update_self ..

theorem StreamState.setSlot_of_ne (st : StreamState) {slot : Slot} {index i : Nat} (h : i ≠ index) :
    (st.setSlot index slot).slots i = st.slots i :=
  Function.update_of_ne h _ _

/-! ## The traced functions -/

section

variable {code : Int} {inner : Traced → Traced} {inner' : StreamState → StreamState}
  {index transfer : Nat} {status : TransferStatus} {actualLength : Int}

/-- `on_transfer`, cut before its submission. -/
theorem onTransfer_eq (st : StreamState) :
    onTransfer code inner' index transfer status actualLength st =
      if (st.slots index).status ≠ .submitted then st
      else match st.complete index transfer status actualLength with
        | (st, none) => st
        | (st, some block) => (st.handOver index block).replenish code inner' index := by
  unfold onTransfer complete finished
  dsimp only
  split_ifs
  · rfl
  · rfl
  · rfl
  · rfl
  · cases StreamState.freeReady _ <;> rfl

/-- The slot has completed. -/
def StreamState.completeTo (st : StreamState) (index : Nat) (slot : Slot) : StreamState :=
  ({ st with outstanding := st.outstanding - 1 } : StreamState).setSlot index
    { slot with status := .completed }

/-- What a callback can do up to its submission: the stream is being stopped; the transfer has
failed; its completion stays in the slot; or a ready block takes it. -/
inductive Completes (st : StreamState) (index : Nat) (slot : Slot) : StreamState × Option Nat → Prop
  | stopped (hstop : st.stopping = true) : Completes st index slot
      (({ st with outstanding := st.outstanding - 1 } : StreamState).setSlot index
        { slot with status := .allocated }, none)
  | failed (hgoing : st.stopping = false) : Completes st index slot
      ({ st.completeTo index slot with resubmitFailed := true }, none)
  | kept (hgoing : st.stopping = false) : Completes st index slot (st.completeTo index slot, none)
  | handed (hgoing : st.stopping = false) (herror : slot.error = none)
      (hfailed : st.resubmitFailed = false) {block : Nat}
      (hfree : (st.completeTo index slot).freeReady = some block) :
    Completes st index slot (st.completeTo index slot, some block)

theorem complete_cases (st : StreamState) (index transfer : Nat) (status : TransferStatus)
    (actualLength : Int) :
    Completes st index (st.finished index transfer status actualLength)
      (st.complete index transfer status actualLength) := by
  unfold complete
  dsimp only
  split
  next hstop => exact .stopped hstop
  next hstop =>
    have hgoing : st.stopping = false := by simpa using hstop
    split
    · exact .failed hgoing
    next herror =>
      split
      · exact .kept hgoing
      next hfailed =>
        cases hfree : StreamState.freeReady _ with
        | none => exact .kept hgoing
        | some block =>
          exact .handed hgoing (by simpa using herror) (Bool.eq_false_iff.2 hfailed) hfree

namespace Traced

variable (t : Traced)

theorem replenish_st (hinner : ∀ t, (inner t).st = inner' t.st) :
    (t.replenish code inner index).st = t.st.replenish code inner' index := by
  unfold replenish
  split
  next hcode =>
    rw [Traced.submit, hinner, hcode]
    rfl
  next hcode =>
    simp only [record, setState, StreamState.replenish, submitSlot, if_neg hcode]

/-- **The callback** does to the stream what `on_transfer` does. -/
theorem onTransfer_st (hinner : ∀ t, (inner t).st = inner' t.st) :
    (t.onTransfer code inner index transfer status actualLength).st =
      Usb.onTransfer code inner' index transfer status actualLength t.st := by
  rw [onTransfer_eq]
  unfold onTransfer
  split
  · rfl
  dsimp only
  cases t.st.complete index transfer status actualLength with
  | mk st block =>
    cases block with
    | none => rfl
    | some block => exact replenish_st _ hinner

theorem dispatch_st (d : Dispatch) : ∀ t : Traced, (dispatch d t).st = Usb.dispatch d t.st := by
  induction d with
  | done => exact fun _ => rfl
  | callback index transfer status actualLength code inner rest ihInner ihRest =>
    intro t
    rw [dispatch, ihRest, onTransfer_st t ihInner, Usb.dispatch]

theorem submit_st (d : Dispatch) (index : Nat) : (t.submit (dispatch d) index).st =
    t.st.submitSlot 0 (Usb.dispatch d) index :=
  dispatch_st d _

/-- **The first part of `wait_stream`** does to the stream what it does there. -/
theorem release_st (submit : Submit) :
    ((t.release submit).1.st, (t.release submit).2) = t.st.release submit := by
  unfold release
  split
  next hd => simp only [StreamState.release, hd, setState]
  next index hd =>
    split
    next hs => simp only [StreamState.release, hd, hs, if_true, ne_eq, not_false_eq_true]
    next hs =>
      split
      next hcode =>
        simp only [setState, submit_st, StreamState.release, hd, if_neg hs, hcode, if_true]
      next hcode =>
        simp only [record, setState, StreamState.release, hd, if_neg hs, if_neg hcode]

theorem startSlots_st (env : StartEnv) : ∀ (indices : List Nat) (t : Traced),
    ((startSlots env t indices).1.st, (startSlots env t indices).2) =
      Usb.startSlots env t.st indices := by
  intro indices
  induction indices with
  | nil => exact fun _ => rfl
  | cons index rest ih =>
    intro t
    simp only [startSlots, Usb.startSlots]
    split
    · rfl
    split
    next hcode => simp only [setState, submitSlot, if_neg hcode]
    next hcode =>
      rw [ih, submit_st, not_not.1 hcode]
      rfl

end Traced

end

/-- **A call of `wait_stream`** of a stream that is not being stopped, up to its event call. -/
theorem Reader.wait_transport {r : Reader} {t : Transport} (hactive : t.active = true)
    (hst : t.stream = some r.traced.st) (hstop : r.traced.st.stopping = false) (submit : Submit) :
    t.waitEnter submit =
      ({ t with stream := some (r.wait submit).1.traced.st }, (r.wait submit).2) := by
  have hrelease := r.traced.release_st submit
  cases hr : r.traced.release submit with
  | mk traced error =>
    rw [hr] at hrelease
    simp only [Transport.waitEnter, hactive, hst, hstop, Bool.false_eq_true, if_false, ← hrelease,
      Reader.wait, hr]
    cases error with
    | some e => rfl
    | none =>
      simp only [Reader.take]
      cases hc : traced.st.completed with
      | mk st result =>
        cases result with
        | ok event => simp [Traced.setState]
        | error e =>
          by_cases he : e = .notFound
          · simp [he, Traced.setState]
          · simp [he, Traced.setState]

/-- **A call of `wait_stream`** after its event call. -/
theorem Reader.resume_transport {r : Reader} {t : Transport} (hactive : t.active = true)
    (hst : t.stream = some r.traced.st) (hstop : r.traced.st.stopping = false) (eventResult : Int) :
    t.waitResume eventResult =
      ({ t with stream := some (r.resume eventResult).1.traced.st }, (r.resume eventResult).2) := by
  have ht : t = { t with stream := some r.traced.st } := by rw [← hst]
  unfold Transport.waitResume Reader.resume
  split
  next hev =>
    rw [← ht]
  next hev =>
    simp only [hactive, hst, hstop, Bool.false_eq_true, if_false, Reader.take]
    cases hc : r.traced.st.completed with
    | mk st result =>
      cases result with
      | ok event => simp [Traced.setState]
      | error e =>
        by_cases he : e = .notFound
        · simp [he, Traced.setState]
        · simp [he, Traced.setState]

/-! ## Slots that libusb does not have -/

section

variable {code : Int} {inner : StreamState → StreamState} {index transfer : Nat}
  {status : TransferStatus} {actualLength : Int}

/-- A slot that libusb does not have is left alone. -/
def Idle (st st' : StreamState) : Prop :=
  ∀ i, (st.slots i).status ≠ .submitted → st'.slots i = st.slots i

theorem Idle.trans {st st' st'' : StreamState} (h : Idle st st') (h' : Idle st' st'') :
    Idle st st'' := by
  intro i hi
  have heq := h i hi
  rw [← heq]
  exact h' i (by rw [heq]; exact hi)

/-- A submission, whatever it does to its own slot. -/
theorem submitSlot_idle (code : Int) (hinner : ∀ st, Idle st (inner st))
    (st : StreamState) {i : Nat} (hne : i ≠ index) (hi : (st.slots i).status ≠ .submitted) :
    (st.submitSlot code inner index).slots i = st.slots i := by
  have hmark : (st.markSubmitted index).slots i = st.slots i := Function.update_of_ne hne _ _
  unfold submitSlot
  dsimp only
  split
  · rw [hinner _ i (by rw [hmark]; exact hi), hmark]
  · exact hmark

theorem onTransfer_idle (hinner : ∀ st, Idle st (inner st)) (st : StreamState) :
    Idle st (onTransfer code inner index transfer status actualLength st) := by
  intro i hi
  rw [onTransfer_eq]
  split
  · rfl
  next hs =>
    have hne : i ≠ index := by
      rintro rfl
      exact hs hi
    have hcases := complete_cases st index transfer status actualLength
    generalize st.complete index transfer status actualLength = result at hcases
    cases hcases with
    | stopped | failed | kept => exact Function.update_of_ne hne _ _
    | @handed _ _ _ block _ =>
      have hover : ((st.completeTo index (st.finished index transfer status actualLength)).handOver
          index block).slots i = st.slots i :=
        (Function.update_of_ne hne _ _).trans (Function.update_of_ne hne _ _)
      have hsubmit := submitSlot_idle code hinner _ hne (by rw [hover]; exact hi)
      dsimp only
      unfold replenish
      dsimp only
      split
      · rw [hsubmit, hover]
      · refine (setSlot_of_ne _ hne).trans ?_
        rw [hsubmit, hover]

theorem dispatch_idle (d : Dispatch) : ∀ st, Idle st (dispatch d st) := by
  induction d with
  | done => exact fun _ _ _ => rfl
  | callback index transfer status actualLength code inner rest ihInner ihRest =>
    intro st
    exact (onTransfer_idle ihInner st).trans (ihRest _)

end

end Px4.Usb
