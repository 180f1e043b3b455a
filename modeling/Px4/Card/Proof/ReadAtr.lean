import Px4.Card.Proof.Atr
import Px4.Card.Proof.Hardware

/-!
# Answers to reset that are read as they come

* `AtOnce`: a string that is no incomplete ATR ends the run when it has been read.
* `readAtrFrom_spec`: the runs of `read_atr_once`.
* `incremental_parsing`: what the parser takes for incomplete, and what that makes of the runs.
-/

namespace Px4.Card

open Lib (Program)
open Lib.Program (After)

variable {S : Type}

/-! ## Reads that end a run -/

/-- The result of a run that the parser ends. -/
def outcomeOf : Result CardAtr → Except Stop CardAtr
  | .ok atr => .ok atr
  | .error e => .error (.failure e)

/-- The first read after which the bytes, with `atr` before them, are no incomplete ATR, is the last
call, and the run ends as the parser does. -/
def AtOnce (atr : List UInt8) (new : Log) (result : Except Stop CardAtr) : Prop :=
  ∀ before after capacity read later,
    new = before ++ ⟨.readData capacity, (.ok read, later)⟩ :: after → read ≠ [] →
      parseCardAtr (ByteView.of (atr ++ (readsOf before).flatten ++ read)) ≠ .error .notReady →
        after = [] ∧ result = outcomeOf
          (parseCardAtr (ByteView.of (atr ++ (readsOf before).flatten ++ read)))

section
variable {atr : List UInt8} {log new : Log} {result : Except Stop CardAtr}

/-- Calls that read nothing, and what follows. -/
theorem AtOnce.append (hlog : ∀ entry ∈ log, readOf entry = none) (h : AtOnce atr new result) :
    AtOnce atr (log ++ new) result := by
  intro before after capacity read later hsplit hread hparsed
  have hreads : readsOf log = [] := List.filterMap_eq_nil_iff.2 hlog
  rcases List.append_eq_append_iff.1 hsplit with ⟨middle, rfl, hnew⟩ | ⟨middle, hbefore, hnew⟩
  · rw [readsOf_append, hreads, List.nil_append] at hparsed ⊢
    exact h middle after capacity read later hnew hread hparsed
  · cases middle with
    | nil =>
      rw [List.append_nil] at hbefore
      rw [← hbefore, hreads] at hparsed ⊢
      exact h [] after capacity read later hnew.symm hread hparsed
    | cons entry middle =>
      rw [List.cons_append, List.cons.injEq] at hnew
      have hmem : entry ∈ log := hbefore ▸ List.mem_append_right _ List.mem_cons_self
      exact nomatch (hnew.1 ▸ hlog entry hmem :
        readOf ⟨.readData capacity, (.ok read, later)⟩ = none)

theorem AtOnce.none (hlog : ∀ entry ∈ log, readOf entry = none) : AtOnce atr log result := by
  rintro before after capacity read later rfl
  exact nomatch hlog _ (List.mem_append_right _ List.mem_cons_self)

/-- A read that ends the run. -/
theorem AtOnce.last {capacity : Nat} {read : List UInt8} {later : Nat}
    (h : read ≠ [] → parseCardAtr (ByteView.of (atr ++ read)) ≠ .error .notReady →
      result = outcomeOf (parseCardAtr (ByteView.of (atr ++ read)))) :
    AtOnce atr [⟨.readData capacity, (.ok read, later)⟩] result := by
  intro before after capacity' read' later' hsplit hread hparsed
  rcases List.cons_eq_append_iff.1 hsplit with ⟨rfl, htail⟩ | ⟨tail, rfl, htail⟩
  · rw [List.cons.injEq] at htail
    obtain ⟨hentry, rfl⟩ := htail
    cases hentry
    rw [readsOf, List.filterMap_nil, List.flatten_nil, List.append_nil] at hparsed ⊢
    exact ⟨rfl, h hread hparsed⟩
  · exact nomatch (List.append_eq_nil_iff.1 htail.symm).2

/-- A read after which more is read. -/
theorem AtOnce.cons {capacity : Nat} {read : List UInt8} {later : Nat}
    (hread : read ≠ [] → parseCardAtr (ByteView.of (atr ++ read)) = .error .notReady)
    (h : AtOnce (atr ++ read) new result) :
    AtOnce atr (⟨.readData capacity, (.ok read, later)⟩ :: new) result := by
  intro before after capacity' read' later' hsplit hread' hparsed
  rcases List.cons_eq_append_iff.1 hsplit with ⟨rfl, htail⟩ | ⟨tail, rfl, htail⟩
  · rw [List.cons.injEq] at htail
    obtain ⟨hentry, rfl⟩ := htail
    cases hentry
    rw [readsOf, List.filterMap_nil, List.flatten_nil, List.append_nil] at hparsed
    exact absurd (hread hread') hparsed
  · have hreads : readsOf (⟨.readData capacity, (.ok read, later)⟩ :: tail) =
        read :: readsOf tail := rfl
    rw [hreads, List.flatten_cons, ← List.append_assoc] at hparsed ⊢
    exact h tail after capacity' read' later' htail hread' hparsed

end

/-! ## The loop -/

/-- How a run ends that has not read an ATR. -/
inductive AtrFailure (deadline fuel rounds : Nat) (atr : List UInt8) (w w' : World S)
    (new : Log) : Stop → Prop
  | expired : deadline ≤ min w'.time timeMax →
      AtrFailure deadline fuel rounds atr w w' new (.failure .timeout)
  | failed {e : Error} : (∃ entry ∈ new, failed entry = true) →
      AtrFailure deadline fuel rounds atr w w' new (.failure e)
  | full : kPx4CardAtrMaxLength ≤ (atr ++ (readsOf new).flatten).length →
      AtrFailure deadline fuel rounds atr w w' new (.failure .protocolError)
  | rejected {e : Error} : parseCardAtr (ByteView.of (atr ++ (readsOf new).flatten)) = .error e →
      e ≠ .notReady →
      AtrFailure deadline fuel rounds atr w w' new (.failure e)
  | waited : w.time + kPollIntervalMs * fuel ≤ w'.time →
      AtrFailure deadline fuel rounds atr w w' new .undefined
  | exhausted : rounds ≤ (readsOf new).length →
      AtrFailure deadline fuel rounds atr w w' new .undefined

/-- How a run ends. -/
structure AtrRun (deadline fuel rounds : Nat) (atr : List UInt8) (w w' : World S) (new : Log)
    (result : Except Stop CardAtr) : Prop where
  called : Called w w' new
  atOnce : AtOnce atr new result
  ok : ∀ parsed, result = .ok parsed →
    parseCardAtr (ByteView.of (atr ++ (readsOf new).flatten)) = .ok parsed
  error : ∀ stop, result = .error stop → AtrFailure deadline fuel rounds atr w w' new stop

/-- Calls that read nothing, and a failure. -/
theorem AtrRun.stop {deadline fuel rounds : Nat} {atr : List UInt8} {w w' : World S}
    {new : Log} {stop : Stop} (hcalled : Called w w' new)
    (hnew : ∀ entry ∈ new, readOf entry = none)
    (h : AtrFailure deadline fuel rounds atr w w' new stop) :
    AtrRun deadline fuel rounds atr w w' new (.error stop) where
  called := hcalled
  atOnce := .none hnew
  ok := nofun
  error := by
    rintro _ ⟨⟩
    exact h

/-- A round whose read does not end the run, and what follows. -/
theorem AtrRun.again {deadline fuel rounds : Nat} {atr read : List UInt8}
    {w w₁ w' : World S} {log new : Log} {capacity later : Nat}
    {pause : (Ask.sleepMs kPollIntervalMs).Answer} {result : Except Stop CardAtr}
    (hcalled : Called w w₁ (log ++ [⟨.readData capacity, (.ok read, later)⟩] ++
      [⟨.sleepMs kPollIntervalMs, pause⟩])) (hlog : ∀ entry ∈ log, readOf entry = none)
    (hread : read ≠ [] → parseCardAtr (ByteView.of (atr ++ read)) = .error .notReady)
    (h : AtrRun deadline fuel rounds (atr ++ read) w₁ w' new result) :
    AtrRun deadline fuel (rounds + 1) atr w w'
      (log ++ [⟨.readData capacity, (.ok read, later)⟩] ++ [⟨.sleepMs kPollIntervalMs, pause⟩] ++
        new) result := by
  have hreads : readsOf (log ++ [⟨.readData capacity, (.ok read, later)⟩] ++
      [⟨.sleepMs kPollIntervalMs, pause⟩] ++ new) = read :: readsOf new := by
    have hnone : readsOf log = [] := List.filterMap_eq_nil_iff.2 hlog
    rw [readsOf_append, readsOf_append, readsOf_append, hnone]
    rfl
  have hflatten : atr ++ (readsOf (log ++ [⟨.readData capacity, (.ok read, later)⟩] ++
      [⟨.sleepMs kPollIntervalMs, pause⟩] ++ new)).flatten = atr ++ read ++
      (readsOf new).flatten := by
    rw [hreads, List.flatten_cons, List.append_assoc]
  refine ⟨hcalled.trans h.called, ?_, ?_, ?_⟩
  · rw [List.append_assoc, List.append_assoc]
    refine .append hlog (.cons hread ?_)
    exact @AtOnce.append _ [⟨.sleepMs kPollIntervalMs, pause⟩] _ _ (by simp [readOf]) h.atOnce
  · intro parsed hparsed
    rw [hflatten]
    exact h.ok parsed hparsed
  · intro stop hstop
    cases h.error stop hstop with
    | expired hexpired => exact .expired hexpired
    | failed hfailed =>
      obtain ⟨entry, hentry, hfailed⟩ := hfailed
      exact .failed ⟨entry, List.mem_append_right _ hentry, hfailed⟩
    | full hfull => exact .full (hflatten ▸ hfull)
    | rejected hrejected hne => exact .rejected (hflatten ▸ hrejected) hne
    | waited hwaited => exact .waited (Nat.le_trans (Nat.add_le_add_right hcalled.time _) hwaited)
    | exhausted hexhausted => exact .exhausted (by rw [hreads]; exact Nat.succ_le_succ hexhausted)

theorem Polling.readOf {log : Log} (h : Polling log) : ∀ entry ∈ log, readOf entry = none :=
  List.filterMap_eq_nil_iff.1 h.reads

/-- **The loop.** -/
theorem readAtrFrom_spec (fuel deadline rounds : Nat) (atr : List UInt8) (w : World S) :
    After (readAtrFrom fuel deadline rounds atr) w
      (fun parsed w' => ∃ new, AtrRun deadline fuel rounds atr w w' new (.ok parsed))
      fun stop w' => ∃ new, AtrRun deadline fuel rounds atr w w' new (.error stop) := by
  induction rounds generalizing atr w with
  | zero => exact ⟨[], .stop (.refl w) nofun (.exhausted (Nat.zero_le _))⟩
  | succ rounds ih =>
    unfold readAtrFrom
    rw [Program.after_bind]
    refine after_deadlineExpired fun answer => ?_
    have hclock := Called.one w .monotonicMs answer
    have hpolling : Polling [⟨.monotonicMs, answer⟩] := .cons (.inr (.inl rfl)) .nil
    generalize hw : w.answered .monotonicMs answer = w₁ at hclock ⊢
    split
    · next hexpired =>
        exact ⟨_, .stop hclock hpolling.readOf (.expired (of_decide_eq_true hexpired))⟩
    rw [Program.after_bind]
    refine (waitDataReady_spec deadline fuel w₁).mono (fun _ w₂ => ?_) fun stop w₂ => ?_
    · rintro ⟨waiting, hwaiting, hwait, -⟩
      have hbefore := hclock.trans hwaiting
      have hlog := (hpolling.append hwait).readOf
      generalize [⟨.monotonicMs, answer⟩] ++ waiting = log at hbefore hlog
      have hnone : readsOf log = [] := List.filterMap_eq_nil_iff.2 hlog
      split
      · next hfull =>
        refine ⟨_, .stop hbefore hlog (.full ?_)⟩
        rw [hnone, List.flatten_nil, List.append_nil]
        exact Nat.le_of_eq hfull.symm
      rw [Program.after_bind]
      refine after_checked (after_call fun answer' => ?_)
      obtain ⟨result, later⟩ := answer'
      have hread :=
        hbefore.trans (.one w₂ (.readData (kPx4CardAtrMaxLength - atr.length)) (result, later))
      cases result with
      | error e =>
        refine ⟨_, .stop hread (fun entry hentry => ?_)
          (.failed ⟨_, List.mem_append_right _ List.mem_cons_self, rfl⟩)⟩
        rcases List.mem_append.1 hentry with hentry | hentry
        · exact hlog entry hentry
        · rw [List.mem_singleton.1 hentry]
          rfl
      | ok read =>
        have hreads :
            readsOf (log ++ [⟨.readData (kPx4CardAtrMaxLength - atr.length), (.ok read, later)⟩]) =
            [read] := by
          rw [readsOf_append, hnone]
          rfl
        have hflatten : atr ++ (readsOf (log ++
            [⟨.readData (kPx4CardAtrMaxLength - atr.length), (.ok read, later)⟩])).flatten =
            atr ++ read := by
          rw [hreads, List.flatten_cons, List.flatten_nil, List.append_nil]
        generalize w₂.answered (.readData (kPx4CardAtrMaxLength - atr.length))
          (.ok read, later) = w₃ at hread ⊢
        dsimp only
        split
        · next hover =>
          have hlength : kPx4CardAtrMaxLength < (atr ++ read).length := by
            rw [List.length_append]
            omega
          refine ⟨_, hread, .append hlog (.last fun _ _ => ?_), nofun, ?_⟩
          · rw [parseCardAtr_overlong hlength]
            rfl
          · rintro _ ⟨⟩
            exact .full (hflatten ▸ Nat.le_of_lt hlength)
        have hagain : (read ≠ [] → parseCardAtr (ByteView.of (atr ++ read)) = .error .notReady) →
            After (do
                call (.sleepMs kPollIntervalMs)
                readAtrFrom fuel deadline rounds (atr ++ read)) w₃
              (fun parsed w' => ∃ new, AtrRun deadline fuel (rounds + 1) atr w w' new (.ok parsed))
              fun stop w' => ∃ new, AtrRun deadline fuel (rounds + 1) atr w w' new
                (.error stop) := by
          intro hparsed
          rw [Program.after_bind]
          refine after_call fun pause => ?_
          have hslept := hread.trans (.one w₃ (.sleepMs kPollIntervalMs) pause)
          exact (ih (atr ++ read) _).mono (fun _ _ ⟨_, hrun⟩ =>
            ⟨_, .again hslept hlog hparsed hrun⟩)
            fun _ _ ⟨_, hrun⟩ => ⟨_, .again hslept hlog hparsed hrun⟩
        by_cases hempty : read.length = 0
        · rw [if_neg (not_not_intro hempty)]
          exact hagain fun hne => absurd (List.length_eq_zero_iff.1 hempty) hne
        rw [if_pos hempty]
        cases hparsed : parseCardAtr (ByteView.of (atr ++ read)) with
        | ok parsed =>
          refine ⟨_, hread, .append hlog (.last fun _ _ => ?_), ?_, nofun⟩
          · rw [hparsed]
            rfl
          · rintro _ ⟨⟩
            rw [hflatten, hparsed]
        | error e =>
          dsimp only
          by_cases hne : e = .notReady
          · rw [if_neg (not_not_intro hne)]
            exact hagain fun _ => hparsed.trans (congrArg _ hne)
          · rw [if_pos hne]
            refine ⟨_, hread, .append hlog (.last fun _ _ => ?_), nofun, ?_⟩
            · rw [hparsed]
              rfl
            · rintro _ ⟨⟩
              exact .rejected (hflatten ▸ hparsed) hne
    · rintro ⟨waiting, hwaiting, hwait, hend⟩
      have hbefore := hclock.trans hwaiting
      have hlog := (hpolling.append hwait).readOf
      refine ⟨_, .stop hbefore hlog ?_⟩
      cases hend with
      | expired h => exact .expired h
      | failed h =>
        obtain ⟨entry, hentry, hfailed⟩ := h
        exact .failed ⟨entry, List.mem_append_right _ hentry, hfailed⟩
      | undefined h => exact .waited (Nat.le_trans (Nat.add_le_add_right hclock.time _) h)

/-! ## Deliveries -/

/-- The calls of a run deliver `a`, or the beginning of it, in reads that are not empty, before the
deadline. -/
structure Delivered (a : List UInt8) (deadline : Nat) (w' : World S) (new : Log) : Prop where
  answered : ∀ entry ∈ new, failed entry = false
  reads : ∀ read ∈ readsOf new, read ≠ []
  bytes : (readsOf new).flatten <+: a
  time : min w'.time timeMax < deadline

theorem exists_last_read {log : Log} {reads : List (List UInt8)} {read : List UInt8}
    (h : readsOf log = reads ++ [read]) : ∃ before after capacity later,
      log = before ++ ⟨.readData capacity, (.ok read, later)⟩ :: after ∧
      readsOf before = reads := by
  obtain ⟨before, rest, rfl, hbefore, hrest⟩ := List.filterMap_eq_append_iff.1 h
  obtain ⟨skipped, entry, after, rfl, hskipped, hentry, -⟩ := List.filterMap_eq_cons_iff.1 hrest
  obtain ⟨q, answer⟩ := entry
  refine ⟨before ++ skipped, after, ?_⟩
  have hreads : readsOf (before ++ skipped) = reads := by
    have hnone : readsOf skipped = [] := List.filterMap_eq_nil_iff.2 hskipped
    rw [readsOf_append, hnone, List.append_nil]
    exact hbefore
  cases q with
  | readData capacity =>
    obtain ⟨result, later⟩ := answer
    cases result with
    | ok bytes =>
      cases hentry
      exact ⟨capacity, later, (List.append_assoc _ _ _).symm, hreads⟩
    | error e => cases hentry
  | _ => cases hentry

theorem Accepted.two_le {a : List UInt8} (h : Accepted a) : 2 ≤ a.length :=
  Nat.not_lt.1 fun hbrief => not_accepted_brief hbrief h

theorem Accepted.le {a : List UInt8} (h : Accepted a) : a.length ≤ kPx4CardAtrMaxLength := by
  refine Nat.not_lt.1 fun hlong => ?_
  obtain ⟨atr, hparsed⟩ := h
  exact nomatch (parseCardAtr_overlong hlong).symm.trans hparsed

/-- There are no more reads than bytes. -/
theorem length_le_flatten {reads : List (List UInt8)} (h : ∀ read ∈ reads, read ≠ []) :
    reads.length ≤ reads.flatten.length := by
  induction reads with
  | nil => exact Nat.le_refl 0
  | cons read reads ih =>
    obtain ⟨hread, hreads⟩ := List.forall_mem_cons.1 h
    have := List.length_pos_iff.2 hread
    have := ih hreads
    rw [List.flatten_cons, List.length_append, List.length_cons]
    omega

/-- A run that is delivered an ATR ends with it. -/
theorem AtrRun.delivered {fuel deadline start : Nat} {a : List UInt8} {w w' : World S} {new : Log}
    {result : Except Stop CardAtr} (h : AtrRun deadline fuel fuel [] w w' new result)
    (ha : Accepted a) (hfuel : 200 ≤ fuel) (hstart : start ≤ w.time)
    (hdeadline : deadline ≤ min (start + kAtrTimeoutMs) timeMax)
    (hdelivered : Delivered a deadline w' new) : result =
    outcomeOf (parseCardAtr (ByteView.of a)) := by
  have hlimit := ha.le
  have htime := hdelivered.time
  have hreads := length_le_flatten hdelivered.reads
  have hnotfailed : ¬∃ entry ∈ new, failed entry = true := by
    rintro ⟨entry, hentry, hfailed⟩
    rw [hdelivered.answered entry hentry] at hfailed
    cases hfailed
  unfold kPx4CardAtrMaxLength at hlimit
  unfold kAtrTimeoutMs at hdeadline
  rcases eq_or_ne (readsOf new).flatten a with heq | hne
  · obtain hnil | ⟨reads, read, hlast⟩ := List.eq_nil_or_concat (readsOf new)
    · have := ha.two_le
      rw [hnil] at heq
      rw [← heq] at this
      exact absurd this (by decide)
    rw [List.concat_eq_append] at hlast
    obtain ⟨before, after, capacity, later, hnew, hbefore⟩ := exists_last_read hlast
    have hread : read ≠ [] := hdelivered.reads read
      (hlast ▸ List.mem_append_right _ List.mem_cons_self)
    have hwhole : [] ++ (readsOf before).flatten ++ read = a := by
      rw [← heq, hlast, hbefore, List.flatten_append, List.flatten_cons,
        List.flatten_nil, List.append_nil,
        List.nil_append]
    have hended := h.atOnce before after capacity read later hnew hread
    rw [hwhole] at hended
    refine (hended fun hnotReady => ?_).2
    obtain ⟨atr, hparsed⟩ := ha
    exact nomatch hnotReady.symm.trans hparsed
  · have hextendable : Extendable (readsOf new).flatten := ⟨a, ha, hdelivered.bytes, hne⟩
    have hshort : (readsOf new).flatten.length < a.length :=
      Nat.lt_of_le_of_ne hdelivered.bytes.length_le fun hlength =>
        hne (hdelivered.bytes.eq_of_length hlength)
    cases result with
    | ok parsed =>
      have hparsed := h.ok parsed rfl
      rw [List.nil_append] at hparsed
      exact absurd hextendable (Accepted.not_extendable ⟨parsed, hparsed⟩)
    | error stop =>
      cases h.error stop rfl with
      | expired hexpired => omega
      | failed hfailed => exact absurd hfailed hnotfailed
      | full hfull =>
        rw [List.nil_append] at hfull
        unfold kPx4CardAtrMaxLength at hfull
        omega
      | rejected hrejected hne' =>
        rw [List.nil_append, (notReady_iff _).2 (.inl hextendable)] at hrejected
        exact absurd (Except.error.inj hrejected).symm hne'
      | waited hwaited =>
        unfold kPollIntervalMs at hwaited
        omega
      | exhausted hexhausted => omega

/-! ## The whole -/

/-- A string is taken for incomplete just if it can be completed. -/
def ToldApart (b : List UInt8) : Prop :=
  parseCardAtr (ByteView.of b) = .error .notReady ↔ Extendable b

theorem toldApart_iff (b : List UInt8) : ToldApart b ↔ ¬Doomed b := by
  unfold ToldApart
  rw [notReady_iff]
  constructor
  · exact fun h hdoomed => hdoomed.not_extendable (h.1 (.inr hdoomed))
  · exact fun h => ⟨fun hor => hor.resolve_right h, .inl⟩

/-- What is not doomed, cannot be completed and is no ATR is reported as malformed. -/
theorem malformed_of_not_doomed {b : List UInt8} (hdoomed : ¬Doomed b) (hextendable : ¬Extendable b)
    (haccepted : ¬Accepted b) : ∃ e, parseCardAtr (ByteView.of b) = .error e ∧ e ≠ .notReady := by
  cases hparsed : parseCardAtr (ByteView.of b) with
  | ok atr => exact absurd ⟨atr, hparsed⟩ haccepted
  | error e =>
    refine ⟨e, rfl, ?_⟩
    rintro rfl
    exact (((notReady_iff b).1 hparsed).resolve_left hextendable |> hdoomed).elim

/-- The runs of `read_atr_once`. -/
theorem readAtrOnce_spec (fuel : Nat) (w : World S) : ∃ deadline answer new,
    ((deadlineAfter kAtrTimeoutMs).exec w).1 = .ok deadline ∧
      deadline = min (min (w.answered .monotonicMs answer).time timeMax + kAtrTimeoutMs) timeMax ∧
      AtrRun deadline fuel fuel [] (w.answered .monotonicMs answer)
        ((readAtrOnce fuel).exec w).2 new
        ((readAtrOnce fuel).exec w).1 := by
  have hdeadline := exec_deadlineAfter kAtrTimeoutMs w
  rw [deadlineFrom_eq (by decide)] at hdeadline
  generalize (w.hardware.ask .monotonicMs).2 = answer at hdeadline
  have hexec : (readAtrOnce fuel).exec w =
      (readAtrFrom fuel
        (min (min (w.answered .monotonicMs answer).time timeMax + kAtrTimeoutMs) timeMax) fuel
        []).exec (w.answered .monotonicMs answer) := by
    unfold readAtrOnce
    rw [Program.exec_bind, hdeadline]
  have hrun := readAtrFrom_spec fuel
    (min (min (w.answered .monotonicMs answer).time timeMax + kAtrTimeoutMs) timeMax) fuel []
    (w.answered .monotonicMs answer)
  unfold After at hrun
  rw [hexec]
  generalize (readAtrFrom fuel _ fuel []).exec (w.answered .monotonicMs answer) = outcome at hrun ⊢
  obtain ⟨result | parsed, w'⟩ := outcome
  · obtain ⟨new, hrun⟩ := hrun
    exact ⟨_, answer, new, by rw [hdeadline], rfl, hrun⟩
  · obtain ⟨new, hrun⟩ := hrun
    exact ⟨_, answer, new, by rw [hdeadline], rfl, hrun⟩

theorem parseCardAtr_bytes {a : List UInt8} {atr : CardAtr}
    (h : parseCardAtr (ByteView.of a) = .ok atr) :
    atr.bytes = a := by
  have haccepted : Accepted a := ⟨atr, h⟩
  match a with
  | [] => exact absurd haccepted (not_accepted_brief (b := []) Nat.zero_lt_two)
  | [ts] => exact absurd haccepted (not_accepted_brief (b := [ts]) Nat.one_lt_two)
  | ts :: t0 :: rest =>
    have hspec := @parseCardAtr_spec ts t0 rest (accepted_iff.1 haccepted).le
    rw [h] at hspec
    cases hspec with
    | whole _ hbytes => exact hbytes

/-- **ATRs that are parsed as they come.** What cannot be completed is told apart from what can be
unless it is doomed; an ATR that is delivered in any reads is returned; and what is neither ends the
run at once. -/
theorem incremental_parsing :
    (∀ b, ToldApart b ↔ ¬Doomed b) ∧
    (∀ a a', Accepted a → Accepted a' → a <+: a' → a = a') ∧
    ∀ (w : World S) (fuel deadline : Nat) (new : Log), 200 ≤ fuel →
      ((deadlineAfter kAtrTimeoutMs).exec w).1 = .ok deadline →
      ((readAtrOnce fuel).exec w).2.hardware.log = w.hardware.log ++ new →
      (∀ a, Accepted a → Delivered a deadline ((readAtrOnce fuel).exec w).2 new →
        ∃ atr, parseCardAtr (ByteView.of a) = .ok atr ∧ atr.bytes = a ∧
        ((readAtrOnce fuel).exec w).1 = .ok atr) ∧
      ∀ before after capacity read later, new = before ++
      ⟨.readData capacity, (.ok read, later)⟩ :: after →
        read ≠ [] → ¬Accepted ((readsOf before).flatten ++ read) →
        ¬Extendable ((readsOf before).flatten ++ read) →
          ¬Doomed ((readsOf before).flatten ++ read) →
            after = [] ∧ ∃ e, e ≠ .notReady ∧ ((readAtrOnce fuel).exec w).1 =
            .error (.failure e) := by
  refine ⟨toldApart_iff, fun a a' ha ha' hprefix => ?_,
    fun w fuel deadline new hfuel hdeadline hlog => ?_⟩
  · exact of_not_not fun hne => ha.not_extendable ⟨a', ha', hprefix, hne⟩
  obtain ⟨deadline', answer, log, hdeadline', heq, hrun⟩ := readAtrOnce_spec fuel w
  obtain rfl : deadline' = deadline := Except.ok.inj (hdeadline'.symm.trans hdeadline)
  obtain rfl : [⟨.monotonicMs, answer⟩] ++ log = new :=
    ((Called.one w _ answer).trans hrun.called).eq hlog
  refine ⟨fun a ha hdelivered => ?_,
    fun before after capacity read later hsplit hread haccepted hextendable
    hdoomed => ?_⟩
  · have hresult := hrun.delivered ha hfuel (Nat.min_le_left _ timeMax) (Nat.le_of_eq heq)
      ⟨fun entry hentry => hdelivered.answered entry (List.mem_append_right _ hentry),
        hdelivered.reads,
        hdelivered.bytes, hdelivered.time⟩
    obtain ⟨atr, hparsed⟩ := ha
    rw [hparsed] at hresult
    exact ⟨atr, hparsed, parseCardAtr_bytes hparsed, hresult⟩
  · have hatOnce := @AtOnce.append _ [⟨.monotonicMs, answer⟩] _ _ (by simp [readOf]) hrun.atOnce
    obtain ⟨e, hparsed, hne⟩ := malformed_of_not_doomed hdoomed hextendable haccepted
    have hended := hatOnce before after capacity read later hsplit hread
    rw [List.nil_append, hparsed] at hended
    obtain ⟨hlast, hresult⟩ := hended fun h => hne (Except.error.inj h)
    exact ⟨hlast, e, hne, hresult⟩

/-- A card whose ATR comes in two reads. -/
def cutWorld : World Unit := ⟨(), scripted [acasBytes.take 5, acasBytes.drop 5], 0⟩

/-- The ATR with a wrong check byte. -/
def misreadBytes : List UInt8 := acasBytes.dropLast ++ [0x18]

/-- A card whose ATR is misread. -/
def misreadWorld : World Unit := ⟨(), scripted [misreadBytes], 0⟩

theorem accepted_acas : Accepted acasBytes := ⟨_, rfl⟩

theorem delivered_cut : Delivered acasBytes 1000 ((readAtrOnce 200).exec cutWorld).2
    ((readAtrOnce 200).exec cutWorld).2.hardware.log where
  answered := by decide +kernel
  reads := by decide +kernel
  bytes := by decide +kernel
  time := by decide +kernel

theorem misread_parsed : parseCardAtr (ByteView.of misreadBytes) = .error .protocolError := by
  decide +kernel

/-- The calls until the misread ATR is there. -/
def misreadCalls : Log :=
  [⟨.monotonicMs, ((), 0)⟩, ⟨.monotonicMs, ((), 0)⟩, ⟨.monotonicMs, ((), 0)⟩,
    ⟨.dataReady, (.ok true, 0)⟩]

theorem misread_log : ((readAtrOnce 200).exec misreadWorld).2.hardware.log =
    misreadCalls ++ [⟨.readData 33, (.ok misreadBytes, 0)⟩] := by decide +kernel

/-- The ATR in two reads is returned, and the misread one is reported at once. -/
theorem incremental_parsing_acas :
    (∃ atr, atr.bytes = acasBytes ∧ ((readAtrOnce 200).exec cutWorld).1 = .ok atr) ∧
    ∃ e, e ≠ .notReady ∧ ((readAtrOnce 200).exec misreadWorld).1 = .error (.failure e) := by
  constructor
  · have hreads := incremental_parsing.2.2 cutWorld 200 1000 _ (Nat.le_refl _) rfl rfl
    obtain ⟨atr, -, hbytes, hread⟩ := hreads.1 acasBytes accepted_acas delivered_cut
    exact ⟨atr, hbytes, hread⟩
  · have hreads := incremental_parsing.2.2 misreadWorld 200 1000 _ (Nat.le_refl _) rfl misread_log
    have hneither : ¬(Extendable misreadBytes ∨ Doomed misreadBytes) :=
      mt (notReady_iff misreadBytes).2 (by rw [misread_parsed]; decide)
    have haccepted : ¬Accepted misreadBytes := by
      rintro ⟨atr, hparsed⟩
      cases misread_parsed.symm.trans hparsed
    obtain ⟨-, e, hne, hread⟩ := hreads.2 misreadCalls [] 33 misreadBytes 0 rfl nofun haccepted
      (fun h => hneither (.inl h)) fun h => hneither (.inr h)
    exact ⟨e, hne, hread⟩

/-- A wrong initial character alone is taken for incomplete, although no ATR starts with it. -/
theorem incremental_parsing_initial :
    parseCardAtr (ByteView.of [0x00]) = .error .notReady ∧ ¬∃ a, Accepted a ∧
    [0x00] <+: a ∧ [0x00] ≠ a :=
  ⟨by decide, fun h => by cases (extendable_initial.1 h) <;> contradiction⟩

end Px4.Card
