import Px4.Frontend.Selection
import Px4.Lib.Hoare

/-!
# Selections of a TSID

* `waitFor_spec`: the polls of a loop, with the time that it sleeps.
* `SelectsTsid`: the calls of a selection and its result.
* `tsid_selection`: both frontends make just such selections.
-/

namespace Px4.Frontend.Selection

open Lib (Program)
open Lib.Program (After)

variable {S : Type}

/-! ## What has been called -/

/-- The time that is slept in a call. -/
def sleptIn : Sigma Ask.Answer → Nat
  | ⟨.sleepMs ms, _⟩ => ms.toNat
  | ⟨.read _, _⟩ => 0
  | ⟨.setTsid _, _⟩ => 0

/-- The time that is slept. -/
def slept (log : Log) : Nat := (log.map sleptIn).sum

/-- What has been read. -/
def readsOf (reading : Reading) (log : Log) : List (Result UInt16) :=
  log.filterMap fun
    | ⟨.read reading', value⟩ => if reading' = reading then some value else none
    | ⟨.setTsid _, _⟩ => none
    | ⟨.sleepMs _, _⟩ => none

/-- What has been written, with the outcome. -/
def writesOf (log : Log) : List (UInt16 × Result Unit) :=
  log.filterMap fun
    | ⟨.setTsid tsid, result⟩ => some (tsid, result)
    | ⟨.read _, _⟩ => none
    | ⟨.sleepMs _, _⟩ => none

/-- What a wait reports that has not found its value. -/
def waitError (reads : List (Result UInt16)) : Error :=
  match reads.getLast? with
  | some (.error e) => e
  | some (.ok _) => .timeout
  | none => .timeout

/-- The number of polls that a wait is permitted. -/
def permitted (ms : Nat) : Nat := ms / 10 + 1

/-- Calls that poll a value and sleep for some time. -/
structure Polls (reading : Reading) (log : Log) (reads : List (Result UInt16))
    (ms : Nat) : Prop where
  reads : readsOf reading log = reads
  others : ∀ reading', reading' ≠ reading → readsOf reading' log = []
  writes : writesOf log = []
  slept : slept log = ms

@[simp] theorem slept_append (log log' : Log) : slept (log ++ log') = slept log + slept log' := by
  simp [slept]

@[simp] theorem readsOf_append (reading : Reading) (log log' : Log) :
    readsOf reading (log ++ log') = readsOf reading log ++ readsOf reading log' :=
  List.filterMap_append

@[simp] theorem writesOf_append (log log' : Log) :
    writesOf (log ++ log') = writesOf log ++ writesOf log' :=
  List.filterMap_append

section
variable {reading : Reading} {log : Log}

theorem readsOf_read (value : Result UInt16) :
    readsOf reading (⟨.read reading, value⟩ :: log) = value :: readsOf reading log := by
  simp [readsOf]

theorem readsOf_other {reading' : Reading} (h : reading' ≠ reading) (value : Result UInt16) :
    readsOf reading' (⟨.read reading, value⟩ :: log) = readsOf reading' log := by
  simp [readsOf, h.symm]

theorem slept_sleep (ms : UInt32) (u : Unit) :
    slept (⟨.sleepMs ms, u⟩ :: log) = ms.toNat + slept log := List.sum_cons

theorem slept_read (value : Result UInt16) : slept (⟨.read reading, value⟩ :: log) = slept log := by
  simp [slept, sleptIn]

variable {reads : List (Result UInt16)} {ms : Nat}

theorem Polls.nil (reading : Reading) : Polls reading [] [] 0 := ⟨rfl, fun _ _ => rfl, rfl, rfl⟩

/-- A read, and what follows. -/
theorem Polls.read (h : Polls reading log reads ms) (value : Result UInt16) :
    Polls reading (⟨.read reading, value⟩ :: log) (value :: reads) ms where
  reads := by rw [readsOf_read, h.reads]
  others := fun reading' hother => by rw [readsOf_other hother, h.others reading' hother]
  writes := h.writes
  slept := by rw [slept_read, h.slept]

/-- A sleep, and what follows. -/
theorem Polls.sleep (h : Polls reading log reads ms) (u : Unit) :
    Polls reading (⟨.sleepMs 10, u⟩ :: log) reads (10 + ms) where
  reads := h.reads
  others := h.others
  writes := h.writes
  slept := by rw [slept_sleep, h.slept]; rfl

end

/-! ## Programs -/

/-- What holds after a function of a frontend, which always comes back. -/
abbrev Ends {α : Type} (x : Selecting S α) (t : Timed S) (Q : α → Timed S → Prop) : Prop :=
  After x t Q fun e _ => e.elim

/-- A frontend after a call. -/
def Timed.asked (t : Timed S) (q : Ask) (answer : q.Answer) : Timed S :=
  { t with calls := { t.calls with log := t.calls.log ++ [⟨q, answer⟩] } }

theorem ends_ask {q : Ask} {t : Timed S} {Q : q.Answer → Timed S → Prop}
    (h : ∀ answer, Q answer (t.asked q answer)) : Ends (ask q) t Q := h _

/-- The calls since `t`. -/
def Called (t t' : Timed S) (new : Log) : Prop := t'.calls.log = t.calls.log ++ new

theorem Called.refl (t : Timed S) : Called t t [] := (List.append_nil _).symm

theorem Called.cons {t t' : Timed S} {q : Ask} {answer : q.Answer} {new : Log}
    (h : Called (t.asked q answer) t' new) : Called t t' (⟨q, answer⟩ :: new) := by
  unfold Called at h ⊢
  rw [h]
  exact List.append_assoc _ _ _

/-! ## Waiting -/

theorem maxPolls_eq (timeoutMs : UInt32) : maxPolls timeoutMs = permitted timeoutMs.toNat := by
  unfold maxPolls permitted
  rw [UInt32.toNat_div]
  rfl

/-- The error at the end of a wait whose polls have come to nothing. -/
def endError (lastError : Option Error) (reads : List (Result UInt16)) : Error :=
  (reads.getLast?.elim lastError lastErrorOf).getD .timeout

/-- What a wait comes to with `left` more polls after `count`. -/
inductive Waited (accept : UInt16 → Bool) (left count : Nat) (lastError : Option Error) :
    List (Result UInt16) → Nat → Result (UInt16 × UInt32) → Prop
  | found {failed : List (Result UInt16)} {value : UInt16} {elapsedMs : UInt32} :
    (∀ read ∈ failed, accepted accept read = none) → accept value = true → failed.length < left →
      elapsedMs.toNat = 10 * (count + failed.length) →
      Waited accept left count lastError (failed ++ [.ok value]) (10 * failed.length)
        (.ok (value, elapsedMs))
  | failed {reads : List (Result UInt16)} :
    (∀ read ∈ reads, accepted accept read = none) → reads.length = left →
      Waited accept left count lastError reads (10 * (left - 1)) (.error (endError lastError reads))

theorem endError_cons (lastError : Option Error) (read : Result UInt16)
    (reads : List (Result UInt16)) :
    endError lastError (read :: reads) = endError (lastErrorOf read) reads := by
  unfold endError
  rw [List.getLast?_cons]
  cases reads.getLast? <;> rfl

/-- A poll that comes to nothing and a sleep, and what follows. -/
theorem Waited.cons {accept : UInt16 → Bool} {left count : Nat} {lastError : Option Error}
    {value : Result UInt16} {reads : List (Result UInt16)} {ms : Nat}
    {result : Result (UInt16 × UInt32)} (hvalue : accepted accept value = none) (hleft : 0 < left)
    (h : Waited accept left (count + 1) (lastErrorOf value) reads ms result) :
    Waited accept (left + 1) count lastError (value :: reads) (10 + ms) result := by
  cases h with
  | @found failed v elapsedMs hfailed haccept hlength helapsed =>
    have hms : 10 + 10 * failed.length = 10 * (value :: failed).length := by
      rw [List.length_cons]; omega
    rw [hms]
    refine .found (List.forall_mem_cons.2 ⟨hvalue, hfailed⟩) haccept (Nat.succ_lt_succ hlength) ?_
    rw [List.length_cons]
    omega
  | failed hfailed hlength =>
    have hms : 10 + 10 * (left - 1) = 10 * (left + 1 - 1) := by omega
    rw [hms, ← endError_cons lastError]
    exact .failed (List.forall_mem_cons.2 ⟨hvalue, hfailed⟩) (congrArg (· + 1) hlength)

theorem accepted_some {accept : UInt16 → Bool} {read : Result UInt16} {value : UInt16}
    (h : accepted accept read = some value) : read = .ok value ∧ accept value = true := by
  unfold accepted at h
  split at h
  · split at h
    · next haccept =>
      cases h
      exact ⟨rfl, haccept⟩
    · cases h
  · cases h

/-- **Waiting.** -/
theorem waitFor_spec (reading : Reading) (accept : UInt16 → Bool) (timeoutMs : UInt32)
    (left count : Nat) (elapsedMs : UInt32) (lastError : Option Error) (t : Timed S)
    (hcount : count + left = maxPolls timeoutMs)
    (helapsed : 0 < left → elapsedMs.toNat = 10 * count) :
    Ends (waitFor reading accept timeoutMs left count elapsedMs lastError) t fun result t' =>
      t'.own = t.own ∧ ∃ new reads ms, Called t t' new ∧ Polls reading new reads ms ∧
        Waited accept left count lastError reads ms result := by
  induction left generalizing count elapsedMs lastError t with
  | zero => exact ⟨rfl, [], [], 0, .refl t, .nil reading, .failed nofun rfl⟩
  | succ left ih =>
    have hpolls : maxPolls timeoutMs = timeoutMs.toNat / 10 + 1 := maxPolls_eq timeoutMs
    have hwaited := helapsed (Nat.succ_pos _)
    unfold waitFor Ends
    rw [Program.after_bind]
    refine ends_ask fun value => ?_
    cases hvalue : accepted accept value with
    | some found =>
      obtain ⟨rfl, haccept⟩ := accepted_some hvalue
      refine ⟨rfl, _, [.ok found], 0, (Called.refl _).cons, (Polls.nil reading).read _, ?_⟩
      exact @Waited.found _ _ _ _ [] found elapsedMs nofun haccept (Nat.succ_pos _) hwaited
    | none =>
      dsimp only
      split
      · next hsleep =>
        have hadd : (elapsedMs + 10).toNat = 10 * (count + 1) := by
          have := timeoutMs.toNat_lt
          rw [UInt32.toNat_add, hwaited]
          show (10 * count + 10) % 2 ^ 32 = _
          omega
        rw [Program.after_bind]
        refine ends_ask fun u => ?_
        refine (ih (count + 1) (elapsedMs + 10) (lastErrorOf value) _ (by omega) fun _ =>
          hadd).mono ?_ nofun
        rintro result t' ⟨hown, new, reads, ms, hcalled, hpolls, hwaited⟩
        exact ⟨hown, _, _, _, hcalled.cons.cons, (hpolls.sleep u).read value,
          hwaited.cons hvalue (by omega)⟩
      · next hlast =>
        obtain rfl : left = 0 := by omega
        refine ⟨rfl, _, [value], 0, (Called.refl _).cons, (Polls.nil reading).read _, ?_⟩
        exact @Waited.failed _ _ _ _ [value] (List.forall_mem_singleton.2 hvalue) rfl

/-! ## Selections -/

/-- The read-back of a TSID within some time, and its result. -/
structure ReadBack (tsid : UInt16) (ms : Nat) (reads : List (Result UInt16))
    (result : Result Unit) :
    Prop where
  some : reads ≠ []
  few : reads.length ≤ permitted ms
  succeeds : result = .ok () ↔ .ok tsid ∈ reads
  fails : .ok tsid ∉ reads → reads.length = permitted ms ∧ result = .error (waitError reads)

/-- What follows on a write of a TSID, by its outcome. -/
def AfterWrite (tsid : UInt16) (ms : Nat) (reads : List (Result UInt16)) (result : Result Unit) :
    Result Unit → Prop
  | .error e => reads = [] ∧ result = .error e
  | .ok () => ReadBack tsid ms reads result

/-- The calls of a selection within some time, and its result. -/
structure SelectsTsid (slot : UInt8) (ms : Nat) (log : Log) (result : Result Unit) : Prop where
  slept : slept log ≤ ms
  searched : readsOf (.tmcc slot) log ≠ []
  slots : ∀ slot', slot' ≠ slot → readsOf (.tmcc slot') log = []
  unfound : (readsOf (.tmcc slot) log).findSome? (accepted (· ≠ 0)) = none →
    (readsOf (.tmcc slot) log).length = permitted ms ∧ writesOf log = [] ∧ readsOf .tsid log = [] ∧
      result = .error (waitError (readsOf (.tmcc slot) log))
  found : ∀ tsid, (readsOf (.tmcc slot) log).findSome? (accepted (· ≠ 0)) = some tsid →
    ∃ written, writesOf log = [(tsid, written)] ∧
      AfterWrite tsid (ms - 10 * ((readsOf (.tmcc slot) log).length - 1))
        (readsOf .tsid log) result written

theorem waitError_eq (reads : List (Result UInt16)) : waitError reads = endError none reads := by
  unfold waitError endError
  cases reads.getLast? with
  | none => rfl
  | some read => cases read <;> rfl

theorem accepted_eq_none {accept : UInt16 → Bool} {value : UInt16} :
    accepted accept (.ok value) = none ↔ accept value = false := by
  unfold accepted
  dsimp only
  split
  · next h => simp [h]
  · next h => simpa using h

/-- The search has not found a TSID. -/
theorem selectsTsid_unfound {slot : UInt8} {timeoutMs : UInt32} {log : Log}
    {reads : List (Result UInt16)} {ms : Nat} {e : Error} (hpolls : Polls (.tmcc slot) log reads ms)
    (hwaited : Waited (· ≠ 0) (maxPolls timeoutMs) 0 none reads ms (.error e)) :
    SelectsTsid slot timeoutMs.toNat log (.error e) := by
  obtain ⟨rfl, hothers, hwrites, rfl⟩ := hpolls
  rw [maxPolls_eq] at hwaited
  generalize hreads : readsOf (.tmcc slot) log = reads at hwaited
  generalize hms : slept log = ms at hwaited
  cases hwaited with
  | failed hfailed hlength =>
    refine ⟨?_, ?_, ?_, ?_, ?_⟩
    · unfold permitted at hms
      omega
    · rw [hreads]
      rintro rfl
      cases hlength
    · exact fun slot' hslot => hothers _ fun h => hslot (Reading.tmcc.inj h)
    · intro _
      rw [hreads, waitError_eq]
      exact ⟨hlength, hwrites, hothers _ nofun, rfl⟩
    · intro tsid hfound
      rw [hreads] at hfound
      obtain ⟨read, hread, hsome⟩ := List.exists_of_findSome?_eq_some hfound
      exact nomatch (hfailed read hread).symm.trans hsome

/-- The result without a value. -/
def outcomeOf : Result (UInt16 × UInt32) → Result Unit
  | .ok _ => .ok ()
  | .error e => .error e

theorem Waited.readBack {tsid : UInt16} {timeoutMs : UInt32}
    {reads : List (Result UInt16)} {ms : Nat} {result : Result (UInt16 × UInt32)}
    (h : Waited (· = tsid) (maxPolls timeoutMs) 0 none reads ms result) :
    ReadBack tsid timeoutMs.toNat reads (outcomeOf result) ∧ ms ≤ timeoutMs.toNat := by
  have hrefused : ∀ read, accepted (fun value => decide (value = tsid)) read = none →
      read ≠ .ok tsid := by
    rintro _ h rfl
    rw [accepted_eq_none] at h
    exact of_decide_eq_false h rfl
  rw [maxPolls_eq] at h
  cases h with
  | @found failed value elapsedMs hfailed haccept hlength helapsed =>
    obtain rfl : value = tsid := of_decide_eq_true haccept
    have hmem : .ok value ∈ failed ++ [.ok value] := List.mem_append_right _ List.mem_cons_self
    refine ⟨⟨by simp, ?_, iff_of_true rfl hmem, fun hnot => absurd hmem hnot⟩, ?_⟩
    · rw [List.length_append, List.length_singleton]
      exact hlength
    · unfold permitted at hlength
      omega
  | failed hfailed hlength =>
    have hnot : .ok tsid ∉ reads := fun hmem => hrefused _ (hfailed _ hmem) rfl
    refine ⟨⟨?_, Nat.le_of_eq hlength, iff_of_false nofun hnot, fun _ => ⟨hlength, ?_⟩⟩, ?_⟩
    · rintro rfl
      cases hlength
    · rw [waitError_eq]
      rfl
    · unfold permitted
      omega

/-- The search has found a TSID. -/
theorem selectsTsid_found {slot : UInt8} {timeoutMs elapsedMs : UInt32} {log after : Log}
    {reads reads' : List (Result UInt16)} {ms ms' : Nat} {tsid : UInt16}
    {written result : Result Unit} (hpolls : Polls (.tmcc slot) log reads ms)
    (hwaited : Waited (· ≠ 0) (maxPolls timeoutMs) 0 none reads ms (.ok (tsid, elapsedMs)))
    (hpolls' : Polls .tsid after reads' ms') (hms' : ms' ≤ (remainingMs elapsedMs timeoutMs).toNat)
    (hwritten : AfterWrite tsid (remainingMs elapsedMs timeoutMs).toNat reads' result written) :
    SelectsTsid slot timeoutMs.toNat (log ++ ⟨.setTsid tsid, written⟩ :: after) result := by
  have hremaining : (remainingMs elapsedMs timeoutMs).toNat = timeoutMs.toNat -
      elapsedMs.toNat := by
    unfold remainingMs
    split
    · next hlt => exact UInt32.toNat_sub_of_le _ _ (UInt32.le_of_lt hlt)
    · next hle =>
      rw [UInt32.lt_iff_toNat_lt] at hle
      show 0 = _
      omega
  rw [maxPolls_eq] at hwaited
  cases hwaited with
  | @found failed _ _ hfailed haccept hlength helapsed =>
    rw [Nat.zero_add] at helapsed
    have hsearch : readsOf (.tmcc slot) (log ++ ⟨.setTsid tsid, written⟩ :: after) =
        failed ++ [.ok tsid] := by
      rw [readsOf_append, hpolls.reads]
      show _ ++ readsOf (.tmcc slot) after = _
      rw [hpolls'.others (.tmcc slot) nofun, List.append_nil]
    have hback : readsOf .tsid (log ++ ⟨.setTsid tsid, written⟩ :: after) = reads' := by
      rw [readsOf_append, hpolls.others .tsid nofun]
      exact hpolls'.reads
    have hwrites : writesOf (log ++ ⟨.setTsid tsid, written⟩ :: after) = [(tsid, written)] := by
      rw [writesOf_append, hpolls.writes]
      exact congrArg ((tsid, written) :: ·) hpolls'.writes
    have hfirst : (failed ++ [Except.ok tsid]).findSome? (accepted (· ≠ 0)) = some tsid := by
      rw [List.findSome?_append, List.findSome?_eq_none_iff.2 hfailed]
      have haccepted : accepted (fun value => decide (value ≠ 0)) (.ok tsid) = some tsid :=
        if_pos haccept
      rw [Option.none_or, List.findSome?_singleton]
      exact haccepted
    refine ⟨?_, ?_, ?_, ?_, ?_⟩
    · have hslept : slept (⟨.setTsid tsid, written⟩ :: after) = slept after := by
        rw [slept, List.map_cons, List.sum_cons]
        exact Nat.zero_add _
      rw [slept_append, hpolls.slept, hslept, hpolls'.slept]
      unfold permitted at hlength
      omega
    · rw [hsearch]
      simp
    · intro slot' hslot
      rw [readsOf_append, hpolls.others (.tmcc slot') fun h => hslot (Reading.tmcc.inj h)]
      exact hpolls'.others (.tmcc slot') nofun
    · intro hnone
      rw [hsearch, hfirst] at hnone
      cases hnone
    · intro tsid' htsid
      rw [hsearch, hfirst] at htsid
      cases htsid
      refine ⟨written, hwrites, ?_⟩
      rw [hback, hsearch, List.length_append, List.length_singleton, Nat.add_sub_cancel]
      rw [hremaining, helapsed] at hwritten
      exact hwritten

/-! ## The frontends -/

/-- A selection, from `t` on. -/
def Selects (slot : UInt8) (timeoutMs : UInt32) (t : Timed S) (result : Result Unit)
    (t' : Timed S) : Prop :=
  ∃ new, Called t t' new ∧ SelectsTsid slot timeoutMs.toNat new result

/-- What follows on a wait. -/
theorem Waits.intro {α : Type} {reading : Reading} {accept : UInt16 → Bool}
    {timeoutMs : UInt32} {t : Timed S} {f : Result (UInt16 × UInt32) → Selecting S α}
    {Q : α → Timed S → Prop}
    (h : ∀ result t' new reads ms, t'.own = t.own → Called t t' new → Polls reading new reads ms →
      Waited accept (maxPolls timeoutMs) 0 none reads ms result → Ends (f result) t' Q) :
    Ends (waitFor reading accept timeoutMs (maxPolls timeoutMs) 0 0 none >>= f) t Q := by
  rw [Ends, Program.after_bind]
  refine (waitFor_spec reading accept timeoutMs (maxPolls timeoutMs) 0 0 none t (Nat.zero_add _)
    fun _ => rfl).mono ?_ nofun
  rintro result t' ⟨hown, new, reads, ms, hcalled, hpolls, hwaited⟩
  exact h result t' new reads ms hown hcalled hpolls hwaited

/-- The write of a TSID and its read-back, from `t` on. -/
def Writes (tsid : UInt16) (ms : UInt32) (t : Timed S) (result : Result Unit)
    (t' : Timed S) : Prop :=
  ∃ written after reads slept, Called t t' (⟨.setTsid tsid, written⟩ :: after) ∧
    Polls .tsid after reads slept ∧ slept ≤ ms.toNat ∧ AfterWrite tsid ms.toNat reads result written

theorem Called.trans {t t' t'' : Timed S} {new new' : Log} (h : Called t t' new)
    (h' : Called t' t'' new') :
    Called t t'' (new ++ new') := by
  unfold Called at h h' ⊢
  rw [h', h, List.append_assoc]

/-- A search that has found nothing is a selection. -/
theorem Selects.unfound {slot : UInt8} {timeoutMs : UInt32} {t t' : Timed S} {new : Log}
    {reads : List (Result UInt16)} {ms : Nat} {e : Error} (hcalled : Called t t' new)
    (hpolls : Polls (.tmcc slot) new reads ms)
    (hwaited : Waited (· ≠ 0) (maxPolls timeoutMs) 0 none reads ms (.error e)) :
    Selects slot timeoutMs t (.error e) t' := ⟨new, hcalled, selectsTsid_unfound hpolls hwaited⟩

/-- A search that has found a TSID and its write are a selection. -/
theorem Selects.found {slot : UInt8} {timeoutMs elapsedMs : UInt32} {t t' t'' : Timed S} {new : Log}
    {reads : List (Result UInt16)} {ms : Nat} {tsid : UInt16} {result : Result Unit}
    (hcalled : Called t t' new) (hpolls : Polls (.tmcc slot) new reads ms)
    (hwaited : Waited (· ≠ 0) (maxPolls timeoutMs) 0 none reads ms (.ok (tsid, elapsedMs)))
    (h : Writes tsid (remainingMs elapsedMs timeoutMs) t' result t'') :
    Selects slot timeoutMs t result t'' := by
  obtain ⟨written, after, reads', ms', hcalled', hpolls', hms', hwritten⟩ := h
  exact ⟨_, hcalled.trans hcalled', selectsTsid_found hpolls hwaited hpolls' hms' hwritten⟩

/-- `t'` has made the calls of `t`. -/
theorem Called.of_calls {t t' t'' : Timed S} {new : Log} (h : Called t' t'' new)
    (hcalls : t'.calls = t.calls) :
    Called t t'' new := by
  unfold Called at h ⊢
  rw [h, hcalls]

theorem after_update {f : S → S} {t : Timed S} {Q : PUnit → Timed S → Prop}
    {R : Empty → Timed S → Prop} :
    After (update f) t Q R ↔ Q ⟨⟩ { t with own := f t.own } := Iff.rfl

theorem Q3U4FrontendBank.selectSatelliteTsidLocked_spec (localReceiver : Nat)
    (tsid : UInt16) (ms : UInt32) (t : Timed Q3U4FrontendBank) :
    Ends (selectSatelliteTsidLocked localReceiver tsid ms) t (Writes tsid ms t) := by
  unfold selectSatelliteTsidLocked Ends
  rw [Program.after_bind, after_update, Program.after_bind]
  refine ends_ask fun written => ?_
  cases written with
  | error e =>
    dsimp only
    rw [Program.after_bind, after_update]
    exact ⟨.error e, [], [], 0, (Called.refl _).cons, .nil _, Nat.zero_le _, rfl, rfl⟩
  | ok u =>
    dsimp only
    rw [Program.after_bind, after_update]
    refine Waits.intro fun result t' new reads slept _ hcalled hpolls hwaited => ?_
    obtain ⟨hback, hslept⟩ := hwaited.readBack
    have hcalled : Called t t' (⟨.setTsid tsid, .ok u⟩ :: new) :=
      Called.cons (hcalled.of_calls (t := t.asked (.setTsid tsid) (.ok u)) rfl)
    cases result with
    | error e => exact ⟨.ok u, new, reads, slept, hcalled, hpolls, hslept, hback⟩
    | ok found => exact ⟨.ok u, new, reads, slept, hcalled, hpolls, hslept, hback⟩

theorem SingleReceiverFrontend.selectSatelliteTsidLocked_spec (tsid : UInt16) (ms : UInt32)
    (t : Timed SingleReceiverFrontend) :
    Ends (selectSatelliteTsidLocked tsid ms) t (Writes tsid ms t) := by
  unfold selectSatelliteTsidLocked Ends
  rw [Program.after_bind]
  refine ends_ask fun written => ?_
  cases written with
  | error e => exact ⟨.error e, [], [], 0, (Called.refl _).cons, .nil _, Nat.zero_le _, rfl, rfl⟩
  | ok u =>
    refine Waits.intro fun result t' new reads slept _ hcalled hpolls hwaited => ?_
    obtain ⟨hback, hslept⟩ := hwaited.readBack
    cases result with
    | error e => exact ⟨.ok u, new, reads, slept, hcalled.cons, hpolls, hslept, hback⟩
    | ok found => exact ⟨.ok u, new, reads, slept, hcalled.cons, hpolls, hslept, hback⟩

/-- The bank takes a selection. -/
structure Q3U4FrontendBank.Ready (localReceiver : Nat) (slot : UInt8)
    (b : Q3U4FrontendBank) : Prop where
  connected : b.bank.disconnected = false
  satellite : localReceiver < 2
  slot : slot < 12
  tuned : b.bank.receiverState localReceiver = .tuned

/-- The enclosure takes a selection. -/
structure SingleReceiverFrontend.Ready (receiver : Nat) (slot : UInt8)
    (s : SingleReceiverFrontend) : Prop where
  first : receiver = 0
  slot : slot < 12
  supported : Single.receiverSupports s.model receiver .isdbS = true
  opened : s.opened = true
  satellite : s.satellite = true
  connected : s.disconnected = false

theorem Q3U4FrontendBank.selects {localReceiver : Nat} {slot : UInt8} {t : Timed Q3U4FrontendBank}
    (h : t.own.Ready localReceiver slot) (timeoutMs : UInt32) :
    Ends (selectSatelliteSlotWithTimeout localReceiver slot timeoutMs) t
      (Selects slot timeoutMs t) := by
  have hreceiver := h.satellite
  unfold selectSatelliteSlotWithTimeout Ends
  rw [Program.after_bind, after_update, Program.after_bind, Program.after_get]
  dsimp only
  rw [if_neg (by show t.own.bank.disconnected ≠ true; simp [h.connected]), if_neg (by omega),
    if_neg (by simpa using h.slot),
    if_neg (by show ¬t.own.bank.receiverState localReceiver ≠ _; simp [h.tuned]),
    Program.after_bind, after_update]
  refine Waits.intro fun result t' new reads slept hown hcalled hpolls hwaited => ?_
  have hcalled := hcalled.of_calls (t := t) rfl
  cases result with
  | error e =>
    dsimp only
    rw [Ends, Program.after_bind, after_update]
    exact .unfound hcalled hpolls hwaited
  | ok found =>
    obtain ⟨tsid, elapsedMs⟩ := found
    refine (selectSatelliteTsidLocked_spec localReceiver tsid _ t').mono ?_ nofun
    exact fun _ _ hwrites => .found hcalled hpolls hwaited hwrites

theorem SingleReceiverFrontend.selects {receiver : Nat} {slot : UInt8}
    {t : Timed SingleReceiverFrontend} (h : t.own.Ready receiver slot) (timeoutMs : UInt32) :
    Ends (selectSatelliteSlot receiver slot timeoutMs) t (Selects slot timeoutMs t) := by
  unfold selectSatelliteSlot Ends
  rw [Program.after_bind, Program.after_get, if_neg (not_not.2 h.first),
    if_neg (by simpa using h.slot),
    if_neg (by simp [h.supported]), if_neg (by simp [h.opened, h.satellite]),
    if_neg (by simp [h.connected])]
  refine Waits.intro fun result t' new reads slept hown hcalled hpolls hwaited => ?_
  cases result with
  | error e => exact .unfound hcalled hpolls hwaited
  | ok found =>
    obtain ⟨tsid, elapsedMs⟩ := found
    refine (selectSatelliteTsidLocked_spec tsid _ t').mono ?_ nofun
    exact fun _ _ hwrites => .found hcalled hpolls hwaited hwrites

/-- A function of a frontend comes back. -/
theorem Ends.exec {α : Type} {x : Selecting S α} {t : Timed S} {Q : α → Timed S → Prop}
    (h : Ends x t Q) :
    ∃ a t', x.exec t = (.ok a, t') ∧ Q a t' := by
  cases hexec : x.exec t with | mk outcome t' =>
  cases outcome with
  | ok a => exact ⟨a, t', rfl, h.ok hexec⟩
  | error e => exact e.elim

/-- **Selections of a TSID.** A selection that is not refused at once sleeps no longer than it may,
reads the TMCC, writes the first TSID that it reads, and succeeds exactly if one of the read-backs
for which there is time has this TSID; a wait that fails reports its last poll. -/
theorem tsid_selection (slot : UInt8) (timeoutMs : UInt32) :
    (∀ localReceiver (t : Timed Q3U4FrontendBank), t.own.Ready localReceiver slot →
      ∃ result t',
      (Q3U4FrontendBank.selectSatelliteSlotWithTimeout localReceiver slot timeoutMs).exec t =
          (.ok result, t') ∧
        ∃ new, t'.calls.log = t.calls.log ++ new ∧ SelectsTsid slot timeoutMs.toNat new result) ∧
    (∀ receiver (t : Timed SingleReceiverFrontend), t.own.Ready receiver slot →
      ∃ result t', (SingleReceiverFrontend.selectSatelliteSlot receiver slot timeoutMs).exec t =
          (.ok result, t') ∧
        ∃ new, t'.calls.log = t.calls.log ++ new ∧ SelectsTsid slot timeoutMs.toNat new result) :=
  ⟨fun _ _ hready => (Q3U4FrontendBank.selects hready timeoutMs).exec,
    fun _ _ hready => (SingleReceiverFrontend.selects hready timeoutMs).exec⟩

/-- A demodulator that has no TSID at first, and whose first read-back fails. -/
def lateTsid : Lib.Oracle Ask Ask.Answer where
  answer log
    | .read (.tmcc slot) => .ok (if readsOf (.tmcc slot) log = [] then 0 else 0x4010)
    | .read .tsid => if readsOf .tsid log = [] then .error .usbIo else .ok 0x4010
    | .setTsid _ => .ok ()
    | .sleepMs _ => ()

/-- A bank whose receivers have been tuned. -/
def tunedBank : Timed Q3U4FrontendBank :=
  ⟨{ bank := { receiverState := fun _ => .tuned } }, lateTsid⟩

/-- An enclosure that has been tuned to a satellite. -/
def tunedSingle : Timed SingleReceiverFrontend :=
  ⟨{ model := .pxM1ur, opened := true, satellite := true }, lateTsid⟩

/-- Both select the late TSID, with two searches and two read-backs. -/
theorem tsid_selection_late :
    (∃ t', (Q3U4FrontendBank.selectSatelliteSlotWithTimeout 0 3 100).exec tunedBank =
      (.ok (.ok ()), t') ∧
      SelectsTsid 3 100 t'.calls.log (.ok ()) ∧ writesOf t'.calls.log = [(0x4010, .ok ())]) ∧
    ∃ t', (SingleReceiverFrontend.selectSatelliteSlot 0 3 100).exec tunedSingle =
    (.ok (.ok ()), t') ∧
      SelectsTsid 3 100 t'.calls.log (.ok ()) ∧ writesOf t'.calls.log = [(0x4010, .ok ())] := by
  constructor
  · obtain ⟨result, t', hexec, new, hlog, hselects⟩ :=
      (tsid_selection 3 100).1 0 tunedBank ⟨rfl, by decide, by decide, rfl⟩
    cases hexec
    cases hlog
    exact ⟨_, rfl, hselects, rfl⟩
  · obtain ⟨result, t', hexec, new, hlog, hselects⟩ :=
      (tsid_selection 3 100).2 0 tunedSingle ⟨rfl, by decide, rfl, rfl, rfl, rfl⟩
    cases hexec
    cases hlog
    exact ⟨_, rfl, hselects, rfl⟩

end Px4.Frontend.Selection
