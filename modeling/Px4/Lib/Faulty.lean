import Mathlib.Logic.Function.Basic
import Mathlib.Data.List.Basic

/-!
# Cells behind a faulty link

Cells that are written through a link which may fail: a write that reports an error may have reached
its cell or not. The outcome of the `n`-th write of a run is `outcomes n`, so that a statement about
all `outcomes` is one about every pattern of failures. `log` holds all writes issued, oldest first,
whatever they came to.

* `write_cases`: all that a write can do.
* `writeAll_ok`: a sequence of writes that succeeds has written every cell.
-/

namespace Lib

/-- What a write comes to. -/
inductive Outcome (ε : Type*)
  | ok
  | failed (e : ε) (written : Bool)
  deriving DecidableEq, Repr

/-- Cells, the writes issued to them and the outcomes of all writes. -/
structure Faulty (ι α ε : Type*) where
  value : ι → α
  log : List (ι × α) := []
  outcomes : Nat → Outcome ε := fun _ => .ok

namespace Faulty

variable {ι α ε : Type*} [DecidableEq ι]

/-- A write that is logged, and `written` or not. -/
def set (m : Faulty ι α ε) (i : ι) (a : α) (written : Bool) : Faulty ι α ε :=
  { m with
    value := if written then Function.update m.value i a else m.value
    log := m.log ++ [(i, a)] }

/-- A write. -/
def write (m : Faulty ι α ε) (i : ι) (a : α) : Faulty ι α ε × Except ε Unit :=
  match m.outcomes m.log.length with
  | .ok => (m.set i a true, .ok ())
  | .failed e written => (m.set i a written, .error e)

/-- Writes in order, up to the first one that fails. -/
def writeAll (m : Faulty ι α ε) : List (ι × α) → Faulty ι α ε × Except ε Unit
  | [] => (m, .ok ())
  | (i, a) :: writes =>
    match m.write i a with
    | (m, .ok ()) => m.writeAll writes
    | (m, .error e) => (m, .error e)

/-- The writes issued to one cell. -/
def logOf (m : Faulty ι α ε) (i : ι) : List α := (m.log.filter fun w => w.1 = i).map (·.2)

/-- Some write to a cell has reported the error `e`. -/
def Reports (m : Faulty ι α ε) (i : ι) (e : ε) : Prop :=
  ∃ n a written, m.log[n]? = some (i, a) ∧ m.outcomes n = .failed e written

section
variable (m : Faulty ι α ε) (i : ι) (a : α) (written : Bool)

@[simp] theorem set_log : (m.set i a written).log = m.log ++ [(i, a)] := rfl

@[simp] theorem set_value_true : (m.set i a true).value i = a := by
  simp [set]

theorem set_value_of_ne {j : ι} (h : j ≠ i) : (m.set i a written).value j = m.value j := by
  unfold set
  cases written
  · rfl
  · exact Function.update_of_ne h _ _

@[simp] theorem logOf_set_self : (m.set i a written).logOf i = m.logOf i ++ [a] := by
  simp [logOf]

theorem logOf_set_of_ne {j : ι} (h : j ≠ i) : (m.set i a written).logOf j = m.logOf j := by
  have hij : ¬i = j := fun hij => h hij.symm
  simp [logOf, hij]

end

/-- **All that a write can do**: it is logged, and if it succeeds its cell is written. -/
theorem write_cases (m : Faulty ι α ε) (i : ι) (a : α) :
    m.write i a = (m.set i a true, .ok ()) ∨
      ∃ e written, m.write i a = (m.set i a written, .error e) := by
  unfold write
  cases m.outcomes m.log.length with
  | ok => exact .inl rfl
  | failed e written => exact .inr ⟨e, written, rfl⟩

theorem write_ok {m m' : Faulty ι α ε} {i : ι} {a : α} (h : m.write i a = (m', .ok ())) :
    m' = m.set i a true := by
  rcases m.write_cases i a with hw | ⟨e, took, hw⟩ <;> rw [hw] at h <;> cases h
  rfl

theorem write_error {m m' : Faulty ι α ε} {i : ι} {a : α} {e : ε}
    (h : m.write i a = (m', .error e)) : ∃ took, m' = m.set i a took := by
  rcases m.write_cases i a with hw | ⟨e', took, hw⟩ <;> rw [hw] at h <;> cases h
  exact ⟨took, rfl⟩

omit [DecidableEq ι] in
/-- Nothing is reported before the first write. -/
theorem not_reports_of_nil {m : Faulty ι α ε} (h : m.log = []) (i : ι) (e : ε) :
    ¬m.Reports i e := by
  rintro ⟨n, a, w, hlog, -⟩
  rw [h] at hlog
  cases hlog

/-- What has been reported after one more write. -/
theorem reports_set (m : Faulty ι α ε) (i : ι) (a : α) (written : Bool) (j : ι) (e : ε) :
    (m.set i a written).Reports j e ↔
      m.Reports j e ∨ (i = j ∧ ∃ written, m.outcomes m.log.length = .failed e written) := by
  constructor
  · rintro ⟨n, b, w, hlog, hout⟩
    rw [set_log] at hlog
    rcases Nat.lt_or_ge n m.log.length with hn | hn
    · rw [List.getElem?_append_left hn] at hlog
      exact .inl ⟨n, b, w, hlog, hout⟩
    · rw [List.getElem?_append_right hn, List.getElem?_singleton] at hlog
      split at hlog
      · have hn : n = m.log.length := by omega
        cases hlog
        exact .inr ⟨rfl, w, hn ▸ hout⟩
      · cases hlog
  · rintro (⟨n, b, w, hlog, hout⟩ | ⟨rfl, w, hout⟩)
    · refine ⟨n, b, w, ?_, hout⟩
      rw [set_log, List.getElem?_append_left (List.getElem?_eq_some_iff.1 hlog).1]
      exact hlog
    · exact ⟨m.log.length, a, w, by simp, hout⟩

theorem write_ok_outcome {m m' : Faulty ι α ε} {i : ι} {a : α}
    (h : m.write i a = (m', .ok ())) : m.outcomes m.log.length = .ok := by
  unfold write at h
  split at h
  · assumption
  · cases h

theorem write_error_outcome {m m' : Faulty ι α ε} {i : ι} {a : α} {e : ε}
    (h : m.write i a = (m', .error e)) :
    ∃ written, m.outcomes m.log.length = .failed e written := by
  unfold write at h
  split at h
  · cases h
  · rename_i e' written hout
    cases h
    exact ⟨written, hout⟩

/-- **A write that succeeds** reports nothing. -/
theorem write_ok_reports {m m' : Faulty ι α ε} {i j : ι} {a : α} {e : ε}
    (h : m.write i a = (m', .ok ())) (hr : m'.Reports j e) : m.Reports j e := by
  rw [write_ok h, reports_set] at hr
  rcases hr with hr | ⟨-, w, hout⟩
  · exact hr
  · rw [write_ok_outcome h] at hout
    cases hout

/-- **A write that fails** reports its error, of its cell. -/
theorem write_error_reports {m m' : Faulty ι α ε} {i j : ι} {a : α} {e e' : ε}
    (h : m.write i a = (m', .error e)) (hr : m'.Reports j e') :
    m.Reports j e' ∨ (i = j ∧ e' = e) := by
  obtain ⟨took, rfl⟩ := write_error h
  rw [reports_set] at hr
  refine hr.imp id fun ⟨hij, w, hout⟩ => ⟨hij, ?_⟩
  obtain ⟨w', hout'⟩ := write_error_outcome h
  rw [hout'] at hout
  cases hout
  rfl

/-- The cells after writes that all took effect. -/
def written (value : ι → α) (writes : List (ι × α)) : ι → α :=
  writes.foldl (fun value w => Function.update value w.1 w.2) value

/-- **A sequence that succeeds has written every cell.** -/
theorem writeAll_ok : ∀ {writes : List (ι × α)} {m m' : Faulty ι α ε},
    m.writeAll writes = (m', .ok ()) → m'.value = written m.value writes
  | [], m, m', h => by
    cases h
    rfl
  | (i, a) :: writes, m, m', h => by
    unfold writeAll at h
    rcases m.write_cases i a with hw | ⟨e, took, hw⟩
    · rw [hw] at h
      have ih := writeAll_ok (m := m.set i a true) h
      exact ih
    · rw [hw] at h
      cases h

end Faulty

end Lib
