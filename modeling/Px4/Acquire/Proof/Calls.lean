import Px4.Acquire.Discovery
import Px4.Lib.Hoare

/-!
# What the calls do to what is held

`Tracked usb items`: the items are what is left of the events so far, and the names of the next
handle and the next duplicate are new. One lemma for each call says what it does to the items.
-/

namespace Px4.Acquire

open Lib (Program)
open Lib.Program (After after_bind after_get after_pure)
open Lib.Custody (Item Accounted status use)

/-- The names of the next handle and the next duplicate are new. -/
structure Fresh (usb : Usb) : Prop where
  handles : ∀ handle : Handle, usb.log.length ≤ handle.opening →
    status handle (events usb) = .never
  duplicates : ∀ fd : Fd, usb.log.length ≤ fd.duplication → use fd (events usb) = .never

/-- The items are what is left of the calls. -/
structure Tracked (usb : Usb) (items : List (Item Handle Fd)) : Prop extends Fresh usb where
  accounted : Accounted (events usb) items

theorem events_ask (usb : Usb) (q : Ask) :
    events (usb.ask q).1 = events usb ++ (event ⟨q, (usb.ask q).2⟩).toList := by
  unfold events
  rw [Lib.Oracle.ask_log, List.filterMap_append]
  cases h : event ⟨q, (usb.ask q).2⟩ <;> simp [h]

/-- A call names what it opens or makes, or what was there before. -/
theorem Fresh.ask {usb : Usb} (h : Fresh usb) {q : Ask}
    (hnew : ∀ e, event ⟨q, (usb.ask q).2⟩ = some e →
      (∀ handle : Handle, e.handle = some handle → handle.opening ≤ usb.log.length) ∧
        ∀ fd : Fd, e.duplicate = some fd → fd.duplication ≤ usb.log.length) :
    Fresh (usb.ask q).1 := by
  have hlength : (usb.ask q).1.log.length = usb.log.length + 1 := by
    rw [Lib.Oracle.ask_log, List.length_append, List.length_singleton]
  refine ⟨fun handle hh => ?_, fun fd hf => ?_⟩
  · rw [hlength] at hh
    rw [events_ask]
    cases he : event ⟨q, (usb.ask q).2⟩ with
    | none => simpa using h.handles handle (by omega)
    | some e =>
      rw [Option.toList_some, Lib.Custody.status_append, Lib.Custody.Status.step_other]
      · exact h.handles handle (by omega)
      · intro hc
        have := (hnew e he).1 handle hc
        omega
  · rw [hlength] at hf
    rw [events_ask]
    cases he : event ⟨q, (usb.ask q).2⟩ with
    | none => simpa using h.duplicates fd (by omega)
    | some e =>
      have hne : e.duplicate ≠ some fd := by
        intro hc
        have := (hnew e he).2 fd hc
        omega
      have hidle : use fd (events usb) = .never := h.duplicates fd (by omega)
      rw [Option.toList_some, Lib.Custody.use_append, Lib.Custody.Use.step_other hne, hidle]
      cases e <;> rfl

/-- A handle that has been named before. -/
theorem Fresh.opening_le {usb : Usb} (h : Fresh usb) {handle : Handle}
    (hs : status handle (events usb) ≠ .never) : handle.opening ≤ usb.log.length := by
  by_contra hc
  exact hs (h.handles handle (by omega))

/-- A duplicate that has been named before. -/
theorem Fresh.duplication_le {usb : Usb} (h : Fresh usb) {fd : Fd}
    (hu : use fd (events usb) ≠ .never) : fd.duplication ≤ usb.log.length := by
  by_contra hc
  exact hu (h.duplicates fd (by omega))

namespace Tracked

variable {usb : Usb} {items items' : List (Item Handle Fd)}

theorem start (answer) : Tracked { answer } [] :=
  ⟨⟨fun _ _ => rfl, fun _ _ => rfl⟩, Accounted.nil⟩

theorem perm (h : Tracked usb items) (hp : items.Perm items') : Tracked usb items' :=
  ⟨h.toFresh, h.accounted.perm hp⟩

theorem empty_iff {c : Bool} : Tracked usb (⟨none, none, c⟩ :: items) ↔ Tracked usb items :=
  ⟨fun h => ⟨h.toFresh, Accounted.empty_iff.1 h.accounted⟩,
    fun h => ⟨h.toFresh, Accounted.empty_iff.2 h.accounted⟩⟩

/-- The handle of an item has been named before. -/
theorem opening_le {dup : Option Fd} {handle : Handle} {c : Bool}
    (h : Tracked usb (⟨dup, some handle, c⟩ :: items)) : handle.opening ≤ usb.log.length := by
  refine h.toFresh.opening_le ?_
  rw [h.accounted.handle_of.1]
  cases c <;> nofun

/-- The duplicate of an item has been named before. -/
theorem duplication_le {fd : Fd} {holder : Option Handle} {c : Bool}
    (h : Tracked usb (⟨some fd, holder, c⟩ :: items)) : fd.duplication ≤ usb.log.length := by
  refine h.toFresh.duplication_le ?_
  rw [h.accounted.duplicate_of.1]
  cases holder <;> nofun

/-- A call without an event. -/
theorem quiet (h : Tracked usb items) {q : Ask} (he : event ⟨q, (usb.ask q).2⟩ = none) :
    Tracked (usb.ask q).1 items := by
  refine ⟨h.toFresh.ask fun e he' => ?_, ?_⟩
  · rw [he] at he'
    cases he'
  · rw [events_ask, he, Option.toList_none, List.append_nil]
    exact h.accounted

/-- A call with an event. -/
theorem event (h : Tracked usb items) {q : Ask} {e : Lib.Custody.Event Handle Fd}
    (he : Acquire.event ⟨q, (usb.ask q).2⟩ = some e)
    (hhandle : ∀ handle, e.handle = some handle → handle.opening ≤ usb.log.length)
    (hfd : ∀ fd, e.duplicate = some fd → fd.duplication ≤ usb.log.length)
    (ha : Accounted (events usb ++ [e]) items') : Tracked (usb.ask q).1 items' := by
  refine ⟨h.toFresh.ask fun e' he' => ?_, ?_⟩
  · cases he.symm.trans he'
    exact ⟨hhandle, hfd⟩
  · rw [events_ask, he]
    exact ha

end Tracked

/-! ## Calls -/

section

variable {usb : Usb} {items : List (Item Handle Fd)} {R : Error → Usb → Prop}

/-- A call that opens, claims, releases and closes nothing. -/
theorem after_quiet {q : Ask} (hq : ∀ answer, event ⟨q, answer⟩ = none) (h : Tracked usb items) :
    After (ask q) usb (fun _ usb' => Tracked usb' items) R :=
  h.quiet (hq _)

/-- A call that may open a handle, of a device or of a duplicate. -/
theorem Tracked.opening {dup : Option Fd} {q : Ask} {opened : Bool}
    (h : Tracked usb (⟨dup, none, false⟩ :: items))
    (he : Acquire.event ⟨q, (usb.ask q).2⟩ =
      if opened then some (.opened ⟨usb.log.length⟩ dup) else none) :
    Tracked (usb.ask q).1
      (⟨dup, if opened then some ⟨usb.log.length⟩ else none, false⟩ :: items) := by
  cases opened with
  | false => exact h.quiet he
  | true =>
    refine h.event he (fun handle hh => ?_) (fun fd hf => ?_)
      (h.accounted.opened (h.handles _ (Nat.le_refl _)))
    · cases hh
      exact Nat.le_refl _
    · cases hf
      exact h.duplication_le

theorem after_openDevice (h : Tracked usb items) (device : Device) :
    After (openDevice device) usb
      (fun r usb' => Tracked usb' (⟨none, r.2, false⟩ :: items)) R :=
  (Tracked.empty_iff.2 h).opening (q := .openDevice device _) rfl

theorem after_wrapSysDevice {fd : Fd} (h : Tracked usb (⟨some fd, none, false⟩ :: items)) :
    After (wrapSysDevice fd) usb
      (fun r usb' => Tracked usb' (⟨some fd, r.2, false⟩ :: items)) R :=
  h.opening (q := .wrapSysDevice fd _) rfl

theorem after_duplicate (h : Tracked usb items) (fd : Int) :
    After (duplicate fd) usb (fun made usb' => Tracked usb' (⟨made, none, false⟩ :: items)) R := by
  let q : Ask := .duplicate fd ⟨usb.log.length⟩
  have he : event ⟨q, (usb.ask q).2⟩ =
      if 0 ≤ (usb.ask q).2 then some (.duplicated ⟨usb.log.length⟩) else none := rfl
  show Tracked (usb.ask q).1
    (⟨if 0 ≤ (usb.ask q).2 then some ⟨usb.log.length⟩ else none, none, false⟩ :: items)
  by_cases hr : 0 ≤ (usb.ask q).2
  · rw [if_pos hr] at he ⊢
    refine h.event he nofun (fun fd hf => ?_)
      (h.accounted.duplicated (h.duplicates _ (Nat.le_refl _)))
    cases hf
    exact Nat.le_refl _
  · rw [if_neg hr] at he ⊢
    exact Tracked.empty_iff.2 (h.quiet he)

theorem after_claimInterface {dup : Option Fd} {handle : Handle}
    (h : Tracked usb (⟨dup, some handle, false⟩ :: items)) :
    After (ask (.claimInterface (some handle))) usb
      (fun result usb' => Tracked usb' (⟨dup, some handle, result = 0⟩ :: items)) R := by
  let q : Ask := .claimInterface (some handle)
  have he : event ⟨q, (usb.ask q).2⟩ =
      if (usb.ask q).2 = 0 then some (.claimed handle) else none := rfl
  show Tracked (usb.ask q).1 (⟨dup, some handle, (usb.ask q).2 = 0⟩ :: items)
  by_cases hr : (usb.ask q).2 = 0
  · rw [if_pos hr] at he
    rw [decide_eq_true hr]
    refine h.event he (fun handle' hh => ?_) nofun h.accounted.claimed
    cases hh
    exact h.opening_le
  · rw [if_neg hr] at he
    rw [decide_eq_false hr]
    exact h.quiet he

/-- **The end of a handle.** -/
theorem after_letGo {dup : Option Fd} {handle : Option Handle} {claimed : Bool}
    (h : Tracked usb (⟨dup, handle, claimed⟩ :: items)) :
    After (letGo handle claimed) usb
      (fun _ usb' => Tracked usb' (⟨dup, none, claimed && handle.isNone⟩ :: items)) R := by
  cases handle with
  | none =>
    rw [Option.isNone_none, Bool.and_true]
    exact h
  | some handle =>
    rw [Option.isNone_some, Bool.and_false]
    have hold : ∀ handle' : Handle, some handle = some handle' →
        handle'.opening ≤ usb.log.length := by
      intro handle' hh
      cases hh
      exact h.opening_le
    cases claimed with
    | false => exact h.event (q := .close handle) rfl hold nofun h.accounted.closed
    | true =>
      -- between the two calls the handle is neither claimed nor closed
      have hfresh : Fresh (usb.ask (.releaseInterface handle)).1 := by
        refine h.toFresh.ask fun e he => ?_
        cases he
        exact ⟨hold, nofun⟩
      refine (?_ : Tracked ((usb.ask (.releaseInterface handle)).1.ask (.close handle)).1 _)
      refine ⟨hfresh.ask fun e he => ?_, ?_⟩
      · cases he
        refine ⟨fun handle' hh => ?_, nofun⟩
        rw [Lib.Oracle.ask_log, List.length_append]
        exact Nat.le_add_right_of_le (hold handle' hh)
      · rw [events_ask, events_ask]
        exact h.accounted.released

theorem after_closeRetained {dup : Option Fd} {claimed : Bool}
    (h : Tracked usb (⟨dup, none, claimed⟩ :: items)) :
    After (closeRetained dup) usb (fun _ usb' => Tracked usb' items) R := by
  cases dup with
  | none => exact Tracked.empty_iff.1 h
  | some fd =>
    refine h.event (q := .closeFd fd) rfl nofun (fun fd' hf => ?_) h.accounted.closedDuplicate
    cases hf
    exact h.duplication_le

end

end Px4.Acquire
