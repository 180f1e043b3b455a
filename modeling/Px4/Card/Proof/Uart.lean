import Px4.Card.Proof.Hardware
import Px4.Card.Link
import Px4.Lib.Plays

/-!
# Blocks that are received over a UART

Surroundings with a queue of bytes that have been sent to the session and are not yet read.

* `Holds`: what holds of all surroundings that agree with the calls so far.
* `UartLaws`: what the session relies on.
* `decodeFrame`: what is made of the bytes of a read.
* `receiveBlock_spec`: what `receive_block` makes of the queue.
-/

namespace Px4.Card

open Lib (Program Plays Surely)
open Lib.Program (After)

variable {S : Type}

/-! ## Surroundings in time -/

/-- Surroundings and the time. -/
structure Timed (L : Type) where
  line : L
  time : Nat

/-- A call, with the time after it. -/
def timed {L : Type} (step : Nat → L → Sigma Ask.Answer → L → Prop) (g : Timed L)
    (entry : Sigma Ask.Answer) (g' : Timed L) : Prop :=
  g'.time = entry.1.until g.time entry.2.2 ∧ step g'.time g.line entry g'.line

section
variable {L : Type} {step : Nat → L → Sigma Ask.Answer → L → Prop} {start : Nat} {first : Timed L}
  {w : World S} {P P' : L → Prop}

/-- What holds of all surroundings that agree with the calls from the `start`-th on. -/
def Holds (step : Nat → L → Sigma Ask.Answer → L → Prop) (start : Nat)
    (first : Timed L) (w : World S) (P : L → Prop) : Prop :=
  Surely (timed step) start first w.hardware.log fun g => g.time = w.time ∧ P g.line

theorem Holds.begin (step : Nat → L → Sigma Ask.Answer → L → Prop) (w : World S) (l : L) :
    Holds step w.hardware.log.length ⟨l, w.time⟩ w (· = l) :=
  (Surely.begin (timed step) w.hardware.log ⟨l, w.time⟩).mono fun g hg => ⟨by rw [hg], by rw [hg]⟩

theorem Holds.mono (h : Holds step start first w P) (hP : ∀ l, P l → P' l) :
    Holds step start first w P' :=
  Surely.mono h fun _ hg => ⟨hg.1, hP _ hg.2⟩

theorem Holds.never (h : Holds step start first w P) (hP : ∀ l, ¬ P l) :
    Holds step start first w fun _ => False :=
  h.mono hP

theorem Holds.and (h : Holds step start first w P) (h' : Holds step start first w P') :
    Holds step start first w fun l => P l ∧ P' l :=
  ⟨h.1, fun g hg => ⟨(h.2 g hg).1, (h.2 g hg).2, (h'.2 g hg).2⟩⟩

/-- **A call more.** -/
theorem Holds.answered (h : Holds step start first w P) (q : Ask) (answer : q.Answer) :
    Holds step start first (w.answered q answer)
      fun l' => ∃ l, P l ∧ step (w.answered q answer).time l ⟨q, answer⟩ l' := by
  refine (h.snoc ⟨q, answer⟩).mono fun g' ⟨g, ⟨htime, hline⟩, hstep⟩ => ?_
  have htime' : g'.time = (w.answered q answer).time := by rw [hstep.1, htime]; rfl
  exact ⟨htime', g.line, hline, htime' ▸ hstep.2⟩

/-- A fact, where there are surroundings at all. -/
theorem Holds.plays {w' : World S} {new : Log} {l : L} {g : Timed L}
    (h : Holds step w.hardware.log.length ⟨l, w.time⟩ w' P)
    (hlog : w'.hardware.log = w.hardware.log ++ new)
    (hplays : Plays (timed step) ⟨l, w.time⟩ new g) : P g.line := by
  unfold Holds at h
  rw [hlog] at h
  exact (h.plays hplays).2

end

/-! ## The queue -/

/-- What the session relies on: reads return the queue, and while it is not empty, the time is
before `due`. Calls may fail where there are `faults`, and lose the queue. -/
structure UartLaws {K : Type} (step : Nat → Line K → Sigma Ask.Answer → Line K → Prop)
    (due : K → Nat) (faults : Prop) : Prop where
  clock : ∀ {t l l' a}, step t l ⟨.monotonicMs, a⟩ l' → l' = l ∧ (l.queue ≠ [] → t < due l.other)
  sleep : ∀ {t l l' ms a}, step t l ⟨.sleepMs ms, a⟩ l' → l' = l
  ready : ∀ {t l l' r u}, step t l ⟨.dataReady, (.ok r, u)⟩ l' → l' = l ∧ (r = true → l.queue ≠ [])
  read : ∀ {t l l' n bytes u}, step t l ⟨.readData n, (.ok bytes, u)⟩ l' →
    bytes = l.queue.take n ∧ l' = { l with queue := l.queue.drop n }
  unready : ∀ {t l l' e u}, step t l ⟨.dataReady, (.error e, u)⟩ l' → faults ∧ l' = l.drained
  unread : ∀ {t l l' n e u}, step t l ⟨.readData n, (.error e, u)⟩ l' → faults ∧ l' = l.drained

/-! ## Frames -/

/-- What is made of the bytes of a read. -/
def decodeFrame (useCrc : Bool) (bytes : List UInt8) : Option Block :=
  match bytes with
  | nad :: pcb :: length :: rest =>
    if 3 + length.toNat + edcLength useCrc ≤ kCardUartFrameMaxLength ∧
        3 + length.toNat + edcLength useCrc ≤ bytes.length ∧ nad = kT1Nad ∧
        edcMatches useCrc (bytes.take (3 + length.toNat + edcLength useCrc)) = true then
      some { pcb, data := rest.take length.toNat }
    else none
  | _ => none

/-- The time after some calls. -/
def timeAfter (time : Nat) (log : Log) : Nat :=
  log.foldl (fun time entry => entry.1.until time entry.2.2) time

theorem le_timeAfter (time : Nat) (log : Log) : time ≤ timeAfter time log := by
  induction log generalizing time with
  | nil => exact Nat.le_refl _
  | cons entry log ih => exact Nat.le_trans (entry.1.le_until _ _) (ih _)

theorem timeAfter_of_plays {L : Type} {step : Nat → L → Sigma Ask.Answer → L → Prop}
    {g g' : Timed L} {log : Log} (h : Plays (timed step) g log g') :
    g'.time = timeAfter g.time log := by
  induction h with
  | nil => rfl
  | cons hstep _ ih =>
    rw [ih, hstep.1]
    rfl

/-- Some calls, which leave the session as it is. -/
structure Since (w w' : World S) (new : Log) : Prop where
  session : w'.session = w.session
  log : w'.hardware.log = w.hardware.log ++ new
  clock : w'.time = timeAfter w.time new

theorem Since.trans {w w' w'' : World S} {new new' : Log} (h : Since w w' new)
    (h' : Since w' w'' new') :
    Since w w'' (new ++ new') where
  session := h'.session.trans h.session
  log := by rw [h'.log, h.log, List.append_assoc]
  clock := by
    rw [h'.clock, h.clock]
    unfold timeAfter
    rw [List.foldl_append]

/-- What has been possible before. -/
theorem Holds.before {L : Type} {step : Nat → L → Sigma Ask.Answer → L → Prop}
    {start : Nat} {first : Timed L} {w w' : World S} {new : Log} {P : L → Prop}
    (h : Holds step start first w P) (hlog : w'.hardware.log = w.hardware.log ++ new)
    (hclock : w'.time = timeAfter w.time new) :
    Holds step start first w' fun _ => ∃ l, P l := by
  unfold Holds
  rw [hlog]
  refine ⟨Nat.le_trans h.1 (by rw [List.length_append]; exact Nat.le_add_right _ _),
    fun g' hg' => ?_⟩
  rw [List.drop_append_of_le_length h.1, Lib.plays_append] at hg'
  obtain ⟨g, hg, hnew⟩ := hg'
  obtain ⟨htime, hl⟩ := h.2 g hg
  exact ⟨by rw [timeAfter_of_plays hnew, htime, hclock], g.line, hl⟩

/-- Calls that write nothing, which leave the session as it is. -/
def Silent (w w' : World S) : Prop :=
  ∃ new, Since w w' new ∧ ∀ entry ∈ new, ∀ frame, entry.1 ≠ .writeData frame

theorem Silent.session {w w' : World S} (h : Silent w w') : w'.session = w.session :=
  h.choose_spec.1.session

theorem Silent.time {w w' : World S} (h : Silent w w') : w.time ≤ w'.time := by
  obtain ⟨new, hsince, -⟩ := h
  rw [hsince.clock]
  exact le_timeAfter _ _

theorem Silent.refl (w : World S) : Silent w w := ⟨[], ⟨rfl, (List.append_nil _).symm, rfl⟩, nofun⟩

theorem Silent.trans {w w' w'' : World S} (h : Silent w w') (h' : Silent w' w'') :
    Silent w w'' := by
  obtain ⟨new, hsince, hnew⟩ := h
  obtain ⟨new', hsince', hnew'⟩ := h'
  refine ⟨new ++ new', hsince.trans hsince', fun entry hentry => ?_⟩
  exact (List.mem_append.1 hentry).elim (hnew entry) (hnew' entry)

theorem Since.one (w : World S) (q : Ask) (answer : q.Answer) :
    Since w (w.answered q answer) [⟨q, answer⟩] :=
  ⟨rfl, rfl, rfl⟩

theorem Silent.one (w : World S) (q : Ask) (answer : q.Answer) (h : ∀ frame, q ≠ .writeData frame) :
    Silent w (w.answered q answer) :=
  ⟨_, .one w q answer, fun entry hentry => by rw [List.mem_singleton.1 hentry]; exact h⟩

/-! ## Waiting -/

section
variable {K : Type} {step : Nat → Line K → Sigma Ask.Answer → Line K → Prop}
  {due : K → Nat} {faults : Prop}
  {start : Nat} {first : Timed (Line K)}

/-- The surroundings when the deadline is over. -/
def Expired (due : K → Nat) (deadline : Nat) (P : Line K → Prop) (time : Nat) (l : Line K) : Prop :=
  P l ∧ deadline ≤ min time timeMax ∧ (l.queue ≠ [] → time < due l.other)

/-- How a wait ends that does not succeed. -/
inductive WaitStop (step : Nat → Line K → Sigma Ask.Answer → Line K → Prop)
    (due : K → Nat) (faults : Prop) (start : Nat) (first : Timed (Line K)) (deadline fuel : Nat)
    (P : Line K → Prop) (w w' : World S) : Stop → Prop
  | expired : Holds step start first w' (Expired due deadline P w'.time) →
      WaitStop step due faults start first deadline fuel P w w' (.failure .timeout)
  | failed {e : Error} : Holds step start first w' (fun l' => faults ∧ ∃ l, P l ∧ l' = l.drained) →
      WaitStop step due faults start first deadline fuel P w w' (.failure e)
  | undefined : Holds step start first w' (fun _ => w.time + kPollIntervalMs * fuel ≤ w'.time) →
      WaitStop step due faults start first deadline fuel P w w' .undefined

theorem UartLaws.after_deadlineExpired (laws : UartLaws step due faults)
    {deadline : Nat} {w : World S} {P : Line K → Prop} {Q : Bool → World S → Prop}
    {R : Stop → World S → Prop} (hw : Holds step start first w P)
    (hexpired : ∀ w', Silent w w' → Holds step start first w'
      (Expired due deadline P w'.time) → Q true w')
    (hlive : ∀ w', Silent w w' → ¬deadline ≤ min w'.time timeMax →
      Holds step start first w' P → Q false w') :
    After (deadlineExpired deadline) w Q R := by
  refine Card.after_deadlineExpired fun answer => ?_
  have hsilent := Silent.one w .monotonicMs answer nofun
  have hclock := hw.answered .monotonicMs answer
  by_cases hle : deadline ≤ min (w.answered .monotonicMs answer).time timeMax
  · rw [decide_eq_true hle]
    refine hexpired _ hsilent (hclock.mono fun l' ⟨l, hl, hstep⟩ => ?_)
    obtain ⟨rfl, hdue⟩ := laws.clock hstep
    exact ⟨hl, hle, hdue⟩
  · rw [decide_eq_false hle]
    refine hlive _ hsilent hle (hclock.mono fun l' ⟨l, hl, hstep⟩ => ?_)
    obtain ⟨rfl, -⟩ := laws.clock hstep
    exact hl

theorem UartLaws.after_deadlineAfter (laws : UartLaws step due faults) {ms : Nat}
    {w : World S} {P : Line K → Prop} {Q : Nat → World S → Prop} {R : Stop → World S → Prop}
    (hw : Holds step start first w P)
    (h : ∀ w', Silent w w' → Holds step start first w' P →
      Q (deadlineFrom (min w'.time timeMax) ms) w') :
    After (deadlineAfter ms) w Q R := by
  refine Card.after_deadlineAfter fun answer => ?_
  refine h _ (.one w _ answer nofun) ((hw.answered .monotonicMs answer).mono
    fun l' ⟨l, hl, hstep⟩ => ?_)
  obtain ⟨rfl, -⟩ := laws.clock hstep
  exact hl

/-- A pause. -/
theorem UartLaws.after_sleep (laws : UartLaws step due faults) {ms : Nat}
    {w : World S} {P : Line K → Prop} {Q : Unit → World S → Prop} {R : Stop → World S → Prop}
    (hw : Holds step start first w P)
    (h : ∀ w', Silent w w' → w.time + ms ≤ w'.time → Holds step start first w' P → Q () w') :
    After (call (.sleepMs ms)) w Q R := by
  refine after_call fun answer => ?_
  refine h _ (.one w _ answer nofun) (Ask.le_until_sleep ms w.time answer.2) ?_
  refine (hw.answered (.sleepMs ms) answer).mono fun l' ⟨l, hl, hstep⟩ => ?_
  rwa [laws.sleep hstep]

/-- **Waiting for the queue.** -/
theorem UartLaws.waitDataReady_spec (laws : UartLaws step due faults)
    (deadline fuel : Nat) {w : World S} {P : Line K → Prop} (hw : Holds step start first w P) :
    After (waitDataReady deadline fuel) w
      (fun _ w' => Silent w w' ∧ Holds step start first w' fun l => P l ∧ l.queue ≠ [])
      fun stop w' => Silent w w' ∧
      WaitStop step due faults start first deadline fuel P w w' stop := by
  induction fuel generalizing w with
  | zero => exact ⟨.refl w, .undefined (hw.mono fun _ _ => Nat.le_refl _)⟩
  | succ fuel ih =>
    unfold waitDataReady
    rw [Program.after_bind]
    refine laws.after_deadlineExpired hw (fun w₁ hsilent hexpired => ⟨hsilent, .expired hexpired⟩)
      fun w₁ hsilent _ hlive => ?_
    rw [if_neg Bool.false_ne_true, Program.after_bind]
    refine after_checked (after_call fun answer => ?_)
    obtain ⟨result, later⟩ := answer
    have hready := hlive.answered .dataReady (result, later)
    have hsilent' := hsilent.trans (.one w₁ .dataReady (result, later) (by rintro _ ⟨⟩))
    cases result with
    | error e =>
      refine ⟨hsilent', .failed (hready.mono fun l' h => ?_)⟩
      obtain ⟨l, hl, hstep⟩ := h
      obtain ⟨hfaults, hdrained⟩ := laws.unready hstep
      exact ⟨hfaults, l, hl, hdrained⟩
    | ok ready =>
      dsimp only
      split
      · next htrue =>
        refine ⟨hsilent', hready.mono fun l' h => ?_⟩
        obtain ⟨l, hl, hstep⟩ := h
        obtain ⟨rfl, hqueue⟩ := laws.ready hstep
        exact ⟨hl, hqueue htrue⟩
      · have hsame : Holds step start first (w₁.answered .dataReady (.ok ready, later)) P := by
          refine hready.mono fun l' h => ?_
          obtain ⟨l, hl, hstep⟩ := h
          obtain ⟨rfl, -⟩ := laws.ready hstep
          exact hl
        rw [Program.after_bind]
        refine laws.after_sleep hsame fun w₂ hslept htime hw₂ => ?_
        have hsilent'' := hsilent'.trans hslept
        refine (ih hw₂).mono (fun _ w' h => ⟨hsilent''.trans h.1, h.2⟩) ?_
        rintro stop w' ⟨hsilent₂, hstop⟩
        refine ⟨hsilent''.trans hsilent₂, ?_⟩
        cases hstop with
        | expired h => exact .expired h
        | failed h => exact .failed h
        | undefined h =>
          have := hsilent'.time
          exact .undefined (h.mono fun _ hl => by rw [Nat.mul_succ]; omega)

end

/-! ## Calls that write nothing -/

/-- A function that writes nothing and leaves the session as it is. -/
def Quiet {α : Type} (x : Driver S α) : Prop := ∀ w, After x w (fun _ => Silent w) fun _ => Silent w

section
variable {α β : Type} {x : Driver S α}

theorem Quiet.bind {f : α → Driver S β} (hx : Quiet x) (hf : ∀ a, Quiet (f a)) :
    Quiet (x >>= f) := by
  intro w
  rw [Program.after_bind]
  refine (hx w).mono (fun a w' h => ?_) fun _ _ h => h
  exact (hf a w').mono (fun _ _ h' => h.trans h') fun _ _ h' => h.trans h'

theorem Quiet.pure (a : α) : Quiet (pure a : Driver S α) := fun w => .refl w

theorem Quiet.throw (stop : Stop) : Quiet (throw stop : Driver S α) := fun w => .refl w

theorem Quiet.ite {c : Prop} [Decidable c] {y : Driver S α} (hx : Quiet x) (hy : Quiet y) :
    Quiet (if c then x else y) := by
  split
  · exact hx
  · exact hy

theorem Quiet.call {q : Ask} (h : ∀ frame, q ≠ .writeData frame) :
    Quiet (call q : Driver S q.Value) :=
  fun w => after_call fun answer => .one w q answer h

theorem Quiet.checked {x : Driver S (Result α)} (hx : Quiet x) : Quiet (checked x) := by
  refine hx.bind fun result => ?_
  cases result with
  | ok a => exact .pure a
  | error e => exact .throw _

theorem Quiet.deadlineExpired (deadline : Nat) : Quiet (deadlineExpired deadline : Driver S Bool) :=
  fun w => after_deadlineExpired fun answer => .one w _ answer nofun

theorem Quiet.monotonicMs : Quiet (monotonicMs : Driver S Nat) :=
  fun w => after_monotonicMs fun answer => .one w _ answer nofun

theorem Quiet.deadlineAfter (ms : Nat) : Quiet (deadlineAfter ms : Driver S Nat) :=
  .bind .monotonicMs fun _ => .pure _

theorem Quiet.attempt (hx : Quiet x) : Quiet (attempt x) := by
  intro w
  have h := hx w
  unfold After Card.attempt at *
  rw [Program.exec_of]
  generalize x.exec w = outcome at h ⊢
  obtain ⟨stop | a, w'⟩ := outcome
  · cases stop with
    | failure e => exact h
    | undefined => exact h
  · exact h

theorem Quiet.waitDataReady (deadline fuel : Nat) :
    Quiet (waitDataReady deadline fuel : Driver S Unit) := by
  induction fuel with
  | zero => exact .throw _
  | succ fuel ih =>
    refine (Quiet.deadlineExpired deadline).bind fun expired => .ite (.throw _) ?_
    refine (Quiet.call (q := .dataReady) nofun).checked.bind fun ready => .ite (.pure _) ?_
    exact (Quiet.call (q := .sleepMs _) nofun).bind fun _ => ih

end

theorem Quiet.fields : Quiet fields := fun w => .refl w

theorem after_fields {w : World CardSession} {Q : CardSession → World CardSession → Prop}
    {R : Stop → World CardSession → Prop} : After fields w Q R ↔ Q w.session w := Iff.rfl

/-- A world with another session. -/
def World.withSession (w : World CardSession) (session : CardSession) : World CardSession :=
  { w with session }

theorem after_update {f : CardSession → CardSession} {w : World CardSession}
    {Q : PUnit → World CardSession → Prop} {R : Stop → World CardSession → Prop} :
    After (update f) w Q R ↔ Q ⟨⟩ (w.withSession (f w.session)) := Iff.rfl

theorem Quiet.discardFrom (left : Nat) : Quiet (discardFrom left) := by
  induction left with
  | zero => exact .throw _
  | succ left ih =>
    refine (Quiet.call (q := .dataReady) nofun).checked.bind fun ready => .ite (.pure _) ?_
    exact (Quiet.call (q := .readData _) nofun).checked.bind fun read =>
      .ite (.throw _) (.ite (.pure _) ih)

/-- A round of the loop of `receive_block`, when there is something to read. -/
def receiveRound (fuel deadline rounds : Nat) (r : Receiving) : Session Receiving := do
  let read ← checked (call (.readData kCardUartFrameMaxLength))
  if kCardUartFrameMaxLength < read.length then fail .protocolError
  else if read.length = 0 then
    call (.sleepMs kPollIntervalMs)
    receiveFrom fuel deadline rounds r
  else
    let frame := r.frame ++ read
    let expectedLength := expectedLengthOf (← fields).useCrc frame r.expectedLength
    let r : Receiving := { frame, expectedLength, readFilledChunk :=
      read.length == kCardUartFrameMaxLength }
    if kCardUartFrameMaxLength < expectedLength then fail .protocolError
    else if expectedLength ≠ 0 ∧ expectedLength ≤ frame.length then return r
    else if expectedLength ≠ 0 ∧ read.length < kCardUartFrameMaxLength then fail .protocolError
    else
      call (.sleepMs kPollIntervalMs)
      receiveFrom fuel deadline rounds r

theorem receiveFrom_succ (fuel deadline rounds : Nat) (r : Receiving) :
    receiveFrom fuel deadline (rounds + 1) r = (do
      if (← deadlineExpired deadline) = true then return r
      else
        waitDataReady deadline fuel
        receiveRound fuel deadline rounds r) := rfl

theorem Quiet.receiveRound {fuel deadline rounds : Nat}
    (h : ∀ r, Quiet (receiveFrom fuel deadline rounds r))
    (r : Receiving) : Quiet (receiveRound fuel deadline rounds r) := by
  refine (Quiet.call (q := .readData _) nofun).checked.bind fun read => .ite (.throw _) ?_
  refine .ite ((Quiet.call (q := .sleepMs _) nofun).bind fun _ => h r)
    (Quiet.fields.bind fun session => ?_)
  refine .ite (.throw _) (.ite (.pure _) (.ite (.throw _) ?_))
  exact (Quiet.call (q := .sleepMs _) nofun).bind fun _ => h _

theorem Quiet.receiveFrom (fuel deadline rounds : Nat) (r : Receiving) :
    Quiet (receiveFrom fuel deadline rounds r) := by
  induction rounds generalizing r with
  | zero => exact .throw _
  | succ rounds ih =>
    refine (Quiet.deadlineExpired deadline).bind fun expired => .ite (.pure _) ?_
    exact (Quiet.waitDataReady deadline fuel).bind fun _ => .receiveRound ih r

/-- What `receive_block` makes of the bytes that it has expected. -/
def blockOf (frame : List UInt8) : Session Block :=
  match frame with
  | nad :: pcb :: length :: rest => do
    if nad ≠ kT1Nad then fail .protocolError
    else if edcMatches (← fields).useCrc (nad :: pcb :: length :: rest) =
      false then fail .protocolError
    else if 254 < length.toNat then fail .protocolError
    else return { pcb, data := rest.take length.toNat }
  | _ => throw .undefined

/-- What `receive_block` makes of the bytes that it has received. -/
def receivedBlock (r : Receiving) : Session Block := do
  if r.expectedLength = 0 ∨ r.frame.length < r.expectedLength then fail .timeout
  else
    (if r.expectedLength < r.frame.length ∨ r.readFilledChunk = true then
      discardPendingData else pure ())
    blockOf (r.frame.take r.expectedLength)

theorem receiveBlock_eq (fuel deadline : Nat) :
    receiveBlock fuel deadline = receiveFrom fuel deadline fuel {} >>= receivedBlock := rfl

theorem Quiet.blockOf (frame : List UInt8) : Quiet (blockOf frame) := by
  unfold Card.blockOf
  split
  · refine .ite (.throw _) (Quiet.fields.bind fun session =>
      .ite (.throw _) (.ite (.throw _) (.pure _)))
  · exact .throw _

theorem Quiet.receivedBlock (r : Receiving) : Quiet (receivedBlock r) := by
  refine .ite (.throw _) (.bind (.ite (.discardFrom _) (.pure _)) fun _ => .blockOf _)

theorem Quiet.receiveBlock (fuel deadline : Nat) : Quiet (receiveBlock fuel deadline) :=
  (Quiet.receiveFrom fuel deadline fuel {}).bind .receivedBlock

/-! ## Receiving -/

section
variable {α : Type} {L : Type} {step : Nat → L → Sigma Ask.Answer → L → Prop}
  {start : Nat} {first : Timed L}

/-- After no surroundings anything holds. -/
theorem Quiet.impossible {x : Driver S α} (hx : Quiet x) {w : World S}
    (hw : Holds step start first w fun _ => False) {P : α → World S → L → Prop}
    {P' : Stop → World S → L → Prop} :
    After x w (fun a w' => Holds step start first w' (P a w')) fun stop w' =>
    Holds step start first w' (P' stop w') := by
  have hnone {w' : World S} (h : Silent w w') {P : L → Prop} : Holds step start first w' P := by
    obtain ⟨new, hsince, -⟩ := h
    exact (hw.before hsince.log hsince.clock).mono fun _ hl => hl.elim fun _ => False.elim
  exact (hx w).mono (fun _ _ h => hnone h) fun _ _ h => hnone h

end

section
variable {K : Type} {step : Nat → Line K → Sigma Ask.Answer → Line K → Prop}
  {due : K → Nat} {faults : Prop}
  {start : Nat} {first : Timed (Line K)}

/-- What the loop of `receive_block` has received. -/
inductive Received (useCrc : Bool) (P : Line K → Prop) (r : Receiving) (l' : Line K) : Prop
  | enough {l : Line K} : P l → r.frame = l.queue.take kCardUartFrameMaxLength →
      r.expectedLength = expectedLengthOf useCrc r.frame 0 →
      r.expectedLength ≤ kCardUartFrameMaxLength →
      r.expectedLength ≠ 0 → r.expectedLength ≤ r.frame.length →
      l' = { l with queue := l.queue.drop kCardUartFrameMaxLength } → Received useCrc P r l'
  | little {l : Line K} : P l → decodeFrame useCrc (l.queue.take kCardUartFrameMaxLength) = none →
      (l.queue.length ≤ kCardUartFrameMaxLength → l' = l.drained) → r.expectedLength = 0 →
      Received useCrc P r l'
  | nothing : P l' → r.expectedLength = 0 → Received useCrc P r l'

/-- The surroundings when no block has been received. -/
inductive NotReceived (due : K → Nat) (faults : Prop) (useCrc : Bool) (deadline : Nat)
    (P : Line K → Prop) (time : Nat) (l' : Line K) : Prop
  | unreadable {l : Line K} : P l →
      (decodeFrame useCrc (l.queue.take kCardUartFrameMaxLength) = none ∨ faults ∨
        kCardUartFrameMaxLength < l.queue.length) →
      (l.queue.length ≤ kCardUartFrameMaxLength → l' = l.drained) →
      NotReceived due faults useCrc deadline P time l'
  | expired : Expired due deadline P time l' → NotReceived due faults useCrc deadline P time l'

/-- What holds after a failure, or when rounds have run out. -/
def StopHolds {L : Type} (P : L → Prop) (exhausted : Prop) : Stop → L → Prop
  | .failure _ => P
  | .undefined => fun _ => exhausted

/-- Fewer than three bytes remain so few when nothing more comes. -/
theorem UartLaws.receiveFrom_little (laws : UartLaws step due faults)
    {fuel deadline rounds : Nat} {r : Receiving} {w : World CardSession} {P : Line K → Prop}
    (hr : r.expectedLength = 0) (hw : Holds step start first w P)
    (hqueue : ∀ l, P l → l.queue = []) :
    After (receiveFrom fuel deadline rounds r) w
      (fun r' w' => Holds step start first w' fun l => P l ∧ r'.expectedLength = 0)
      fun stop w' => Holds step start first w'
        (StopHolds P (rounds = 0 ∨ w.time + kPollIntervalMs * fuel ≤ w'.time) stop) := by
  cases rounds with
  | zero => exact hw.mono fun _ _ => .inl rfl
  | succ rounds =>
    rw [receiveFrom_succ, Program.after_bind]
    refine laws.after_deadlineExpired hw (fun w₁ _ hexpired => ?_) fun w₁ hsilent _ hlive => ?_
    · rw [if_pos rfl, Program.after_pure]
      exact hexpired.mono fun l hl => ⟨hl.1, hr⟩
    rw [if_neg nofun, Program.after_bind]
    refine (laws.waitDataReady_spec deadline fuel hlive).mono (fun _ w₂ ⟨_, hready⟩ => ?_)
      fun stop w₂ ⟨_, hstop⟩ => ?_
    · have hnone := hready.never fun l hl => hl.2 (hqueue l hl.1)
      exact (Quiet.receiveRound (Quiet.receiveFrom fuel deadline rounds) r).impossible hnone
    · cases hstop with
      | expired h => exact h.mono fun l hl => hl.1
      | failed h =>
        refine h.mono fun l' ⟨_, l, hl, hdrained⟩ => ?_
        have hsame : l.drained = l := by
          unfold Line.drained
          rw [← hqueue l hl]
        exact hdrained ▸ hsame ▸ hl
      | undefined h =>
        have := hsilent.time
        exact h.mono fun _ hl => .inr (by omega)

theorem expectedLengthOf_cons (useCrc : Bool) (nad pcb length : UInt8)
    (rest : List UInt8) (before : Nat) :
    expectedLengthOf useCrc (nad :: pcb :: length :: rest) before = 3 + length.toNat +
    edcLength useCrc := rfl

/-- What holds when fewer than three bytes have been read. -/
theorem decodeFrame_little {useCrc : Bool} {bytes : List UInt8}
    (h : expectedLengthOf useCrc bytes 0 = 0) :
    decodeFrame useCrc bytes = none := by
  match bytes with
  | [] => rfl
  | [_] => rfl
  | [_, _] => rfl
  | _ :: _ :: length :: _ =>
    rw [expectedLengthOf_cons] at h
    omega

theorem decodeFrame_refused {useCrc : Bool} {bytes : List UInt8}
    (h : kCardUartFrameMaxLength < expectedLengthOf useCrc bytes 0 ∨
      bytes.length < expectedLengthOf useCrc bytes 0) :
    decodeFrame useCrc bytes = none := by
  match bytes with
  | [] => rfl
  | [_] => rfl
  | [_, _] => rfl
  | _ :: _ :: length :: _ =>
    rw [expectedLengthOf_cons] at h
    unfold decodeFrame
    exact if_neg fun hall => by omega

theorem length_of_expectedLengthOf {useCrc : Bool} {bytes : List UInt8}
    (h : expectedLengthOf useCrc bytes 0 = 0) :
    bytes.length < 3 := by
  match bytes with
  | [] => exact Nat.zero_lt_succ 2
  | [_] => exact Nat.succ_lt_succ (Nat.zero_lt_succ 1)
  | [_, _] => exact Nat.succ_lt_succ (Nat.succ_lt_succ (Nat.zero_lt_succ 0))
  | _ :: _ :: length :: _ =>
    rw [expectedLengthOf_cons] at h
    omega

theorem Line.drop_eq_drained {l : Line K} (h : l.queue.length ≤ kCardUartFrameMaxLength) :
    { l with queue := l.queue.drop kCardUartFrameMaxLength } = l.drained := by
  rw [List.drop_eq_nil_iff.2 h]
  rfl

/-- **The loop of `receive_block`.** -/
theorem UartLaws.receiveFrom_spec (laws : UartLaws step due faults) {fuel deadline rounds : Nat}
    {w : World CardSession} {P : Line K → Prop} (hw : Holds step start first w P) :
    After (receiveFrom fuel deadline rounds {}) w
      (fun r w' => Holds step start first w' fun l' => Received w.session.useCrc P r l' ∧
        (r.expectedLength = 0 → NotReceived due faults w.session.useCrc deadline P w'.time l'))
      fun stop w' => Holds step start first w' (StopHolds
        (NotReceived due faults w.session.useCrc deadline P w'.time)
        (rounds < 2 ∨ w.time + kPollIntervalMs * fuel ≤ w'.time) stop) := by
  cases rounds with
  | zero => exact hw.mono fun _ _ => .inl (by decide)
  | succ rounds =>
    rw [receiveFrom_succ, Program.after_bind]
    refine laws.after_deadlineExpired hw (fun w₁ _ hexpired => ?_) fun w₁ hsilent _ hlive => ?_
    · rw [if_pos rfl, Program.after_pure]
      exact hexpired.mono fun l hl => ⟨.nothing hl.1 rfl, fun _ => .expired hl⟩
    rw [if_neg nofun, Program.after_bind]
    refine (laws.waitDataReady_spec deadline fuel hlive).mono (fun _ w₂ ⟨hwaited, hready⟩ => ?_)
      fun stop w₂ ⟨_, hstop⟩ => ?_
    · unfold receiveRound
      refine (Program.after_bind _).2 ?_
      refine after_checked (after_call fun answer => ?_)
      obtain ⟨result, later⟩ := answer
      have hread := hready.answered (.readData kCardUartFrameMaxLength) (result, later)
      have hsilent' :=
        hsilent.trans
          (hwaited.trans (.one w₂ (.readData kCardUartFrameMaxLength) (result, later) nofun))
      cases result with
      | error e =>
        refine hread.mono fun l' ⟨l, ⟨hl, _⟩, hstep⟩ => ?_
        obtain ⟨hfaults, hdrained⟩ := laws.unread hstep
        exact .unreadable hl (.inr (.inl hfaults)) fun _ => hdrained
      | ok read =>
        have hgot := hread.mono fun l' ⟨l, ⟨hl, hqueue⟩, hstep⟩ =>
          (⟨l, hl, hqueue, laws.read hstep⟩ : ∃ l : Line K, P l ∧ l.queue ≠ [] ∧
            read = l.queue.take kCardUartFrameMaxLength ∧
              l' = { l with queue := l.queue.drop kCardUartFrameMaxLength })
        generalize w₂.answered (.readData kCardUartFrameMaxLength) (.ok read, later) =
          w₃ at hgot hsilent' ⊢
        dsimp only
        split
        · next hover =>
          refine hgot.mono fun l' ⟨l, _, _, hread, _⟩ => ?_
          rw [hread, List.length_take] at hover
          omega
        split
        · next hempty =>
          have hnone := hgot.never fun l' ⟨l, _, hqueue, hread, _⟩ => by
            rw [hread, List.length_take, Nat.min_eq_zero_iff] at hempty
            exact hempty.elim nofun fun h => hqueue (List.length_eq_zero_iff.1 h)
          exact ((Quiet.call (q := .sleepMs _) nofun).bind fun _ =>
            .receiveFrom _ _ _ _).impossible hnone
        refine (Program.after_bind _).2 (after_fields.2 ?_)
        rw [hsilent'.session, List.nil_append]
        split
        · next hover =>
          refine hgot.mono fun l' ⟨l, hl, _, hread, hl'⟩ => ?_
          refine .unreadable hl (.inl (decodeFrame_refused (.inl (hread ▸ hover)))) fun hshort => ?_
          rw [hl', Line.drop_eq_drained hshort]
        next hlimit =>
        rw [Nat.not_lt] at hlimit
        split
        · next henough =>
          rw [Program.after_pure]
          refine hgot.mono fun l' ⟨l, hl, _, hread, hl'⟩ => ⟨?_, fun h => absurd h henough.1⟩
          exact .enough hl hread rfl hlimit henough.1 henough.2 hl'
        next hnotenough =>
        split
        · next hshort =>
          refine hgot.mono fun l' ⟨l, hl, _, hread, hl'⟩ => ?_
          refine .unreadable hl (.inl (decodeFrame_refused (.inr ?_))) fun hshort => ?_
          · exact hread ▸ Nat.not_le.1 fun hle => hnotenough ⟨hshort.1, hle⟩
          · rw [hl', Line.drop_eq_drained hshort]
        next hfull =>
        have hlittle : expectedLengthOf w.session.useCrc read 0 = 0 := of_not_not fun hne => by
          have hlong : ¬read.length < kCardUartFrameMaxLength := fun h => hfull ⟨hne, h⟩
          have hmore : ¬expectedLengthOf w.session.useCrc read 0 ≤ read.length :=
            fun h => hnotenough ⟨hne, h⟩
          omega
        have hdrained := hgot.mono fun l' ⟨l, hl, _, hread, hl'⟩ =>
          (⟨l, hl, by rw [← hread]; exact decodeFrame_little hlittle, by
            have hlength := length_of_expectedLengthOf hlittle
            rw [hread, List.length_take, kCardUartFrameMaxLength] at hlength
            rw [hl', Line.drop_eq_drained (by unfold kCardUartFrameMaxLength; omega)]⟩ :
            ∃ l : Line K, P l ∧ decodeFrame w.session.useCrc
              (l.queue.take kCardUartFrameMaxLength) = none ∧
              l' = l.drained)
        refine (Program.after_bind _).2 (laws.after_sleep hdrained fun w₄ hslept _ hw₄ => ?_)
        refine (laws.receiveFrom_little hlittle hw₄ ?_).mono (fun r' w' h => ?_) fun stop w' h => ?_
        · rintro _ ⟨l, _, _, rfl⟩
          rfl
        · refine h.mono fun l' ⟨⟨l, hl, hnone, hl'⟩, hr'⟩ =>
            ⟨.little hl hnone (fun _ => hl') hr', fun _ => ?_⟩
          exact .unreadable hl (.inl hnone) fun _ => hl'
        · refine h.mono fun l' hstop => ?_
          have := (hsilent'.trans hslept).time
          cases stop with
          | failure e =>
            obtain ⟨l, hl, hnone, hl'⟩ := hstop
            exact .unreadable hl (.inl hnone) fun _ => hl'
          | undefined => exact hstop.imp (fun h => by omega) fun h => by omega
    · cases hstop with
      | expired h => exact h.mono fun l hl => .expired hl
      | failed h =>
        refine h.mono fun l' ⟨hfaults, l, hl, hdrained⟩ => ?_
        exact .unreadable hl (.inr (.inl hfaults)) fun _ => hdrained
      | undefined h =>
        have := hsilent.time
        exact h.mono fun _ hl => .inr (by omega)

/-- Discarding always ends. -/
theorem discardFrom_ends (left : Nat) (w : World CardSession) :
    After (discardFrom left) w (fun _ _ => True) fun stop _ => ∃ e, stop = .failure e := by
  induction left generalizing w with
  | zero => exact ⟨_, rfl⟩
  | succ left ih =>
    refine (Program.after_bind _).2 (after_checked (after_call fun answer => ?_))
    obtain ⟨result, later⟩ := answer
    cases result with
    | error e => exact ⟨e, rfl⟩
    | ok ready =>
      refine Program.after_ite trivial
        ((Program.after_bind _).2 (after_checked (after_call fun answer' => ?_)))
      obtain ⟨result, later'⟩ := answer'
      cases result with
      | error e => exact ⟨e, rfl⟩
      | ok read => exact Program.after_ite ⟨_, rfl⟩ (Program.after_ite trivial (ih _))

/-- Discarding leaves an empty queue as it is. -/
theorem UartLaws.discardFrom_spec (laws : UartLaws step due faults) {left : Nat} (hleft : 0 < left)
    {w : World CardSession} {P : Line K → Prop} (hw : Holds step start first w P) :
    After (discardFrom left) w
      (fun _ w' => Holds step start first w' fun l' => ∃ l, P l ∧ (l.queue = [] → l' = l))
      fun _ w' => Holds step start first w' fun l' => ∃ l, P l ∧
      (l.queue = [] → l' = l ∧ faults) := by
  obtain ⟨left, rfl⟩ := Nat.exists_eq_add_one_of_ne_zero (Nat.pos_iff_ne_zero.1 hleft)
  refine (Program.after_bind _).2 (after_checked (after_call fun answer => ?_))
  obtain ⟨result, later⟩ := answer
  have hready := hw.answered .dataReady (result, later)
  cases result with
  | error e =>
    refine hready.mono fun l' ⟨l, hl, hstep⟩ => ?_
    obtain ⟨hfaults, hdrained⟩ := laws.unready hstep
    refine ⟨l, hl, fun hqueue => ⟨?_, hfaults⟩⟩
    rw [hdrained, Line.drained, ← hqueue]
  | ok ready =>
    generalize w.answered .dataReady (.ok ready, later) = w₁ at hready ⊢
    dsimp only
    split
    · rw [Program.after_pure]
      refine hready.mono fun l' ⟨l, hl, hstep⟩ => ?_
      obtain ⟨rfl, -⟩ := laws.ready hstep
      exact ⟨l', hl, fun _ => rfl⟩
    · next htrue =>
      rw [Bool.not_eq_false] at htrue
      have hqueue : Holds step start first w₁ fun _ => ∃ l, P l ∧ l.queue ≠ [] := by
        refine hready.mono fun l' ⟨l, hl, hstep⟩ => ?_
        obtain ⟨rfl, hqueue⟩ := laws.ready hstep
        exact ⟨l', hl, hqueue htrue⟩
      have hrest : Quiet (do
          let read ← checked (call (.readData kCardUartFrameMaxLength))
          if kCardUartFrameMaxLength < read.length then fail .protocolError
          else if read.length = 0 then return ()
          else discardFrom left : Session Unit) :=
        (Quiet.call (q := .readData _) nofun).checked.bind fun read =>
          .ite (.throw _) (.ite (.pure _) (.discardFrom left))
      refine (hrest w₁).mono (fun _ _ ⟨_, hsince, _⟩ => ?_) ?_
      · refine (hqueue.before hsince.log hsince.clock).mono fun l' ⟨_, l, hl, hne⟩ =>
          ⟨l, hl, fun h => absurd h hne⟩
      · rintro _ _ ⟨_, hsince, _⟩
        refine (hqueue.before hsince.log hsince.clock).mono fun l' ⟨_, l, hl, hne⟩ =>
          ⟨l, hl, fun h => absurd h hne⟩

/-- What is made of a frame that has come as a whole. -/
theorem exec_blockOf {bytes : List UInt8} {w : World CardSession}
    (hlimit : expectedLengthOf w.session.useCrc bytes 0 ≤ kCardUartFrameMaxLength)
    (hnone : expectedLengthOf w.session.useCrc bytes 0 ≠ 0)
    (henough : expectedLengthOf w.session.useCrc bytes 0 ≤ bytes.length) :
    (blockOf (bytes.take (expectedLengthOf w.session.useCrc bytes 0))).exec w =
      ((match decodeFrame w.session.useCrc bytes with
        | some block => .ok block
        | none => .error (.failure .protocolError)), w) := by
  match bytes with
  | [] => exact absurd rfl hnone
  | [_] => exact absurd rfl hnone
  | [_, _] => exact absurd rfl hnone
  | nad :: pcb :: length :: rest =>
    rw [expectedLengthOf_cons] at hlimit henough ⊢
    have htake : (nad :: pcb :: length :: rest).take
        (3 + length.toNat + edcLength w.session.useCrc) =
        nad :: pcb :: length :: rest.take (length.toNat + edcLength w.session.useCrc) := by
      rw [Nat.add_assoc, Nat.add_comm 3]
      rfl
    have hdata : (rest.take (length.toNat + edcLength w.session.useCrc)).take length.toNat =
        rest.take length.toNat := by rw [List.take_take, Nat.min_eq_left (Nat.le_add_right _ _)]
    have hdecode : decodeFrame w.session.useCrc (nad :: pcb :: length :: rest) =
        if nad = kT1Nad ∧ edcMatches w.session.useCrc
          (nad :: pcb :: length :: rest.take (length.toNat + edcLength w.session.useCrc)) =
          true then
          some { pcb, data := rest.take length.toNat } else none := by
      unfold decodeFrame
      dsimp only
      rw [htake]
      simp only [hlimit, henough, true_and]
    have hedc : 1 ≤ edcLength w.session.useCrc := by unfold edcLength; split <;> decide
    unfold kCardUartFrameMaxLength at hlimit
    rw [htake, hdecode]
    unfold blockOf
    dsimp only
    by_cases hnad : nad = kT1Nad
    · rw [if_neg (not_not_intro hnad)]
      show Program.exec (if edcMatches w.session.useCrc
        (nad :: pcb :: length :: rest.take (length.toNat + edcLength w.session.useCrc)) = false then
          fail .protocolError
        else if 254 < length.toNat then fail .protocolError
        else pure
          (⟨pcb, (rest.take (length.toNat + edcLength w.session.useCrc)).take length.toNat⟩ :
            Block)) w = _
      rw [hdata, if_neg (by omega : ¬254 < length.toNat)]
      by_cases hmatches : edcMatches w.session.useCrc
          (nad :: pcb :: length :: rest.take (length.toNat + edcLength w.session.useCrc)) = true
      · rw [if_neg (by rw [hmatches]; nofun), if_pos ⟨hnad, hmatches⟩]
        rfl
      · rw [if_pos (Bool.not_eq_true _ ▸ hmatches), if_neg fun h => hmatches h.2]
        rfl
    · rw [if_pos hnad, if_neg fun h => hnad h.1]
      rfl

/-- **What `receive_block` makes of the queue.** -/
theorem UartLaws.receiveBlock_spec (laws : UartLaws step due faults) {fuel deadline : Nat}
    {w : World CardSession} {P : Line K → Prop} (hw : Holds step start first w P) :
    After (receiveBlock fuel deadline) w
      (fun block w' => Holds step start first w' fun l' => ∃ l, P l ∧
        decodeFrame w.session.useCrc (l.queue.take kCardUartFrameMaxLength) = some block ∧
          (l.queue.length ≤ kCardUartFrameMaxLength → l' = l.drained))
      fun stop w' => Holds step start first w' (StopHolds
        (NotReceived due faults w.session.useCrc deadline P w'.time)
        (fuel < 2 ∨ w.time + kPollIntervalMs * fuel ≤ w'.time) stop) := by
  rw [receiveBlock_eq, Program.after_bind]
  have hquiet := Quiet.receiveFrom fuel deadline fuel {} w
  refine (hquiet.and (laws.receiveFrom_spec hw)).mono (fun r w₁ ⟨hsilent, hreceived⟩ => ?_)
    fun _ _ h => h.2
  rw [← hsilent.session] at hreceived ⊢
  unfold receivedBlock
  split
  · next hlittle =>
    refine hreceived.mono fun l' ⟨hr, hnot⟩ => ?_
    cases hr with
    | enough _ _ _ _ hne henough => exact absurd hlittle (not_or.2 ⟨hne, Nat.not_lt.2 henough⟩)
    | little _ _ _ hzero => exact hnot hzero
    | nothing _ hzero => exact hnot hzero
  next hmuch =>
  rw [not_or, Nat.not_lt] at hmuch
  have hframe : Holds step start first w₁ fun l' => ∃ l, P l ∧
      r.frame = l.queue.take kCardUartFrameMaxLength ∧
      r.expectedLength = expectedLengthOf w₁.session.useCrc r.frame 0 ∧
      r.expectedLength ≤ kCardUartFrameMaxLength ∧
      l' = { l with queue := l.queue.drop kCardUartFrameMaxLength } := by
    refine hreceived.mono fun l' ⟨hr, _⟩ => ?_
    cases hr with
    | enough hl hframe hexpected hlimit _ _ hl' => exact ⟨_, hl, hframe, hexpected, hlimit, hl'⟩
    | little _ _ _ hzero => exact absurd hzero hmuch.1
    | nothing _ hzero => exact absurd hzero hmuch.1
  have hrest : Quiet (do
      (if r.expectedLength < r.frame.length ∨ r.readFilledChunk = true then
        discardPendingData else pure ())
      blockOf (r.frame.take r.expectedLength)) :=
        .bind (.ite (.discardFrom _) (.pure _)) fun _ => .blockOf _
  by_cases hexpected : r.expectedLength = expectedLengthOf w₁.session.useCrc r.frame 0 ∧
      r.expectedLength ≤ kCardUartFrameMaxLength
  · obtain ⟨hexpected, hlimit⟩ := hexpected
    have hdiscarded : After
        (if r.expectedLength < r.frame.length ∨ r.readFilledChunk = true then discardPendingData
          else pure ()) w₁
        (fun _ w' => Holds step start first w' fun l' => ∃ l, P l ∧
          r.frame = l.queue.take kCardUartFrameMaxLength ∧
            (l.queue.length ≤ kCardUartFrameMaxLength → l' = l.drained))
        fun stop w' => Holds step start first w' (StopHolds (fun l' => ∃ l, P l ∧
            (l.queue.length ≤ kCardUartFrameMaxLength → l' = l.drained ∧ faults))
          (fuel < 2 ∨ w.time + kPollIntervalMs * fuel ≤ w'.time) stop) := by
      split
      · refine ((laws.discardFrom_spec (by decide) hframe).and
          (discardFrom_ends kMaxDiscardChunks w₁)).mono
          (fun _ w₂ ⟨h, _⟩ => h.mono ?_) ?_
        · rintro l'' ⟨l', ⟨l, hl, hread, _, _, rfl⟩, hl''⟩
          refine ⟨l, hl, hread, fun hshort => ?_⟩
          rw [hl'' (List.drop_eq_nil_iff.2 hshort), Line.drop_eq_drained hshort]
        · rintro stop w₂ ⟨h, e, rfl⟩
          refine h.mono ?_
          rintro l'' ⟨l', ⟨l, hl, hread, _, _, rfl⟩, hl''⟩
          refine ⟨l, hl, fun hshort => ?_⟩
          obtain ⟨hsame, hfaults⟩ := hl'' (List.drop_eq_nil_iff.2 hshort)
          exact ⟨by rw [hsame, Line.drop_eq_drained hshort], hfaults⟩
      · rw [Program.after_pure]
        refine hframe.mono ?_
        rintro l' ⟨l, hl, hread, _, _, rfl⟩
        exact ⟨l, hl, hread, fun hshort => Line.drop_eq_drained hshort⟩
    have hkept : Quiet (if r.expectedLength < r.frame.length ∨ r.readFilledChunk = true then
        discardPendingData
        else pure ()) := .ite (.discardFrom _) (.pure _)
    refine (Program.after_bind _).2 (((hkept w₁).and hdiscarded).mono (fun _ w₂ ⟨hsilent₂, h⟩ => ?_)
      fun stop w₂ ⟨_, h⟩ => ?_)
    · rw [← hsilent₂.session] at hexpected ⊢
      have hblock := @exec_blockOf r.frame w₂ (hexpected ▸ hlimit) (hexpected ▸ hmuch.1)
        (hexpected ▸ hmuch.2)
      rw [← hexpected] at hblock
      unfold After
      rw [hblock]
      cases hdecode : decodeFrame w₂.session.useCrc r.frame with
      | some block =>
        refine h.mono fun l' ⟨l, hl, hread, hl'⟩ => ⟨l, hl, ?_, hl'⟩
        rw [← hread, hdecode]
      | none =>
        refine h.mono fun l' ⟨l, hl, hread, hl'⟩ => .unreadable hl (.inl ?_) hl'
        rw [← hread, hdecode]
    · refine h.mono fun l' hstop => ?_
      cases stop with
      | failure e =>
        obtain ⟨l, hl, hl'⟩ := hstop
        refine .unreadable hl (.inr ?_) fun hshort => (hl' hshort).1
        exact (Nat.lt_or_ge kCardUartFrameMaxLength l.queue.length).symm.imp_left fun hshort =>
          (hl' hshort).2
      | undefined => exact hstop
  · have hnone := hframe.never fun l' ⟨_, _, _, hexpected', hlimit, _⟩ =>
      hexpected ⟨hexpected', hlimit⟩
    exact hrest.impossible hnone

end

end Px4.Card
