import Px4.Card.Atr
import Px4.Lib.Hoare

/-!
# Runs over the hardware of a card

* `after_call`: what holds after a call, for every answer.
* `Called`: the calls between two worlds.
* `waitDataReady_spec`: waiting makes calls of the clock and of `data_ready` only.
-/

namespace Px4.Card

open Lib (Program)
open Lib.Program (After)

variable {S : Type}

/-! ## Calls -/

/-- A world after a call. -/
def World.answered (w : World S) (q : Ask) (answer : q.Answer) : World S :=
  { w with
    hardware := { w.hardware with log := w.hardware.log ++ [⟨q, answer⟩] }
    time := q.until w.time answer.2 }

/-- **A call.** -/
theorem after_call {q : Ask} {w : World S} {Q : q.Value → World S → Prop}
    {R : Stop → World S → Prop} (h : ∀ answer, Q answer.1 (w.answered q answer)) :
    After (call q) w Q R := h _

theorem after_checked {α : Type} {x : Driver S (Result α)} {w : World S} {Q : α → World S → Prop}
    {R : Stop → World S → Prop}
    (h : After x w (fun result w' => match result with
      | .ok a => Q a w'
      | .error e => R (.failure e) w') R) : After (checked x) w Q R := by
  unfold checked
  rw [Program.after_bind]
  refine h.mono (fun result w' hresult => ?_) fun _ _ => id
  cases result with
  | ok a => exact hresult
  | error e => exact hresult

theorem Ask.le_until (q : Ask) (time later : Nat) : time ≤ q.until time later := by
  cases q <;> unfold Ask.until
  case sleepMs => exact Nat.le_trans (Nat.le_add_right _ _) (Nat.le_max_left _ _)
  all_goals exact Nat.le_max_left _ _

theorem Ask.le_until_sleep (ms time later : Nat) : time + ms ≤ (Ask.sleepMs ms).until time later :=
  Nat.le_max_left _ _

/-! ## The calls of a run -/

/-- The calls between two worlds. -/
structure Called (w w' : World S) (new : Log) : Prop where
  session : w'.session = w.session
  answer : w'.hardware.answer = w.hardware.answer
  log : w'.hardware.log = w.hardware.log ++ new
  time : w.time ≤ w'.time

theorem Called.refl (w : World S) : Called w w [] :=
  ⟨rfl, rfl, (List.append_nil _).symm, Nat.le_refl _⟩

theorem Called.trans {w w' w'' : World S} {new new' : Log} (h : Called w w' new)
    (h' : Called w' w'' new') :
    Called w w'' (new ++ new') where
  session := h'.session.trans h.session
  answer := h'.answer.trans h.answer
  log := by rw [h'.log, h.log, List.append_assoc]
  time := Nat.le_trans h.time h'.time

theorem Called.one (w : World S) (q : Ask) (answer : q.Answer) :
    Called w (w.answered q answer) [⟨q, answer⟩] :=
  ⟨rfl, rfl, rfl, q.le_until _ _⟩

theorem Called.cons {w w' : World S} {q : Ask} {answer : q.Answer} {new : Log}
    (h : Called (w.answered q answer) w' new) : Called w w' (⟨q, answer⟩ :: new) :=
  (Called.one w q answer).trans h

/-- The calls between two worlds are determined by them. -/
theorem Called.eq {w w' : World S} {new new' : Log} (h : Called w w' new)
    (h' : w'.hardware.log = w.hardware.log ++ new') : new = new' :=
  List.append_cancel_left (h.log.symm.trans h')

/-- What a read has returned. -/
def readOf : Sigma Ask.Answer → Option (List UInt8)
  | ⟨.readData _, (.ok bytes, _)⟩ => some bytes
  | _ => none

/-- What has been read. -/
def readsOf (log : Log) : List (List UInt8) := log.filterMap readOf

/-- A call that has failed. -/
def failed : Sigma Ask.Answer → Bool
  | ⟨.detectCard, (.error _, _)⟩ => true
  | ⟨.resetCard, (.error _, _)⟩ => true
  | ⟨.dataReady, (.error _, _)⟩ => true
  | ⟨.readData _, (.error _, _)⟩ => true
  | ⟨.writeData _, (.error _, _)⟩ => true
  | ⟨.setBaudRate _, (.error _, _)⟩ => true
  | _ => false

@[simp] theorem readsOf_append (log log' : Log) :
    readsOf (log ++ log') = readsOf log ++ readsOf log' :=
  List.filterMap_append

/-! ## A card that answers -/

instance Ask.Value.decidableEq (q : Ask) : DecidableEq q.Value := by
  cases q <;> unfold Ask.Value <;> infer_instance

/-- Hardware that answers every call, and the reads one after the other. -/
def scripted (reads : List (List UInt8)) : Lib.Oracle Ask Ask.Answer where
  answer log
    | .detectCard => (.ok true, 0)
    | .resetCard => (.ok (), 0)
    | .dataReady => (.ok true, 0)
    | .readData capacity => (.ok ((reads.getD (readsOf log).length []).take capacity), 0)
    | .writeData _ => (.ok (), 0)
    | .setBaudRate _ => (.ok (), 0)
    | .monotonicMs => ((), 0)
    | .sleepMs _ => ((), 0)

/-- An ATR that selects 38400 baud. -/
def acasBytes : List UInt8 :=
  [0x3b, 0xf0, 0x13, 0x00, 0xff, 0x91, 0x81, 0xb1, 0xfe, 0x46, 0x1f, 0x03, 0x19]

/-! ## Waiting -/

/-- Calls of the clock and of `data_ready`. -/
def Polling (log : Log) : Prop :=
  ∀ entry ∈ log, entry.1 = .dataReady ∨ entry.1 = .monotonicMs ∨ ∃ ms, entry.1 = .sleepMs ms

theorem Polling.nil : Polling [] := nofun

theorem Polling.append {log log' : Log} (h : Polling log) (h' : Polling log') :
    Polling (log ++ log') :=
  fun entry hentry => (List.mem_append.1 hentry).elim (h entry) (h' entry)

theorem Polling.cons {entry : Sigma Ask.Answer} {log : Log}
    (hentry : entry.1 = .dataReady ∨ entry.1 = .monotonicMs ∨ ∃ ms, entry.1 = .sleepMs ms)
    (h : Polling log) :
    Polling (entry :: log) := List.forall_mem_cons.2 ⟨hentry, h⟩

theorem Polling.reads {log : Log} (h : Polling log) : readsOf log = [] := by
  refine List.filterMap_eq_nil_iff.2 fun ⟨q, answer⟩ hentry => ?_
  rcases h _ hentry with hq | hq | ⟨ms, hq⟩
  all_goals
    dsimp only at hq
    subst hq
    rfl

/-- The clock. -/
theorem after_monotonicMs {w : World S} {Q : Nat → World S → Prop} {R : Stop → World S → Prop}
    (h : ∀ answer, Q (min (w.answered .monotonicMs answer).time timeMax)
      (w.answered .monotonicMs answer)) :
    After (monotonicMs : Driver S Nat) w Q R := by
  unfold monotonicMs
  rw [Program.after_bind]
  exact after_call h

theorem after_deadlineExpired {deadline : Nat} {w : World S} {Q : Bool → World S → Prop}
    {R : Stop → World S → Prop}
    (h : ∀ answer, Q (decide (deadline ≤ min (w.answered .monotonicMs answer).time timeMax))
      (w.answered .monotonicMs answer)) :
      After (deadlineExpired deadline : Driver S Bool) w Q R := by
  unfold deadlineExpired
  rw [Program.after_bind]
  exact after_monotonicMs h

/-- The deadline from a time on. -/
def deadlineFrom (now ms : Nat) : Nat := if timeMax - ms < now then timeMax else now + ms

theorem deadlineFrom_eq {now ms : Nat} (hms : ms ≤ timeMax) :
    deadlineFrom now ms = min (now + ms) timeMax := by
  unfold deadlineFrom
  split <;> omega

/-- A deadline. -/
theorem exec_deadlineAfter (ms : Nat) (w : World S) :
    (deadlineAfter ms).exec w =
      (.ok (deadlineFrom
        (min (w.answered .monotonicMs (w.hardware.ask .monotonicMs).2).time timeMax) ms),
        w.answered .monotonicMs (w.hardware.ask .monotonicMs).2) := rfl

theorem after_deadlineAfter {ms : Nat} {w : World S} {Q : Nat → World S → Prop}
    {R : Stop → World S → Prop}
    (h : ∀ answer, Q (deadlineFrom (min (w.answered .monotonicMs answer).time timeMax) ms)
      (w.answered .monotonicMs answer)) : After (deadlineAfter ms : Driver S Nat) w Q R := h _

/-- How a wait ends. -/
inductive WaitEnd (deadline : Nat) (fuel : Nat) (w w' : World S) (new : Log) : Stop → Prop
  | expired : deadline ≤ min w'.time timeMax → WaitEnd deadline fuel w w' new (.failure .timeout)
  | failed {e : Error} : (∃ entry ∈ new, failed entry = true) →
      WaitEnd deadline fuel w w' new (.failure e)
  | undefined : w.time + kPollIntervalMs * fuel ≤ w'.time →
      WaitEnd deadline fuel w w' new .undefined

/-- **Waiting.** -/
theorem waitDataReady_spec (deadline fuel : Nat) (w : World S) :
    After (waitDataReady deadline fuel) w
      (fun _ w' => ∃ new, Called w w' new ∧ Polling new ∧
        ∃ t, (⟨.dataReady, (.ok true, t)⟩ : Sigma Ask.Answer) ∈ new)
      fun stop w' => ∃ new, Called w w' new ∧ Polling new ∧
      WaitEnd deadline fuel w w' new stop := by
  induction fuel generalizing w with
  | zero => exact ⟨[], .refl w, .nil, .undefined (Nat.le_refl _)⟩
  | succ fuel ih =>
    unfold waitDataReady
    rw [Program.after_bind]
    refine after_deadlineExpired fun answer => ?_
    have hclock := Called.one w .monotonicMs answer
    generalize hw : w.answered .monotonicMs answer = w₁ at hclock ⊢
    have hpolling : Polling [⟨.monotonicMs, answer⟩] := .cons (.inr (.inl rfl)) .nil
    split
    · next hexpired => exact ⟨_, hclock, hpolling, .expired (of_decide_eq_true hexpired)⟩
    rw [Program.after_bind]
    refine after_checked (after_call fun answer' => ?_)
    obtain ⟨result, later⟩ := answer'
    have hready := hclock.trans (.one w₁ .dataReady (result, later))
    have hpolling' : Polling ([⟨.monotonicMs, answer⟩] ++ [⟨.dataReady, (result, later)⟩]) :=
      hpolling.append (.cons (.inl rfl) .nil)
    cases result with
    | error e =>
      exact ⟨_, hready, hpolling',
        .failed ⟨⟨.dataReady, (.error e, later)⟩, List.mem_append_right _ List.mem_cons_self, rfl⟩⟩
    | ok ready =>
      dsimp only
      split
      · next htrue =>
        subst htrue
        exact ⟨_, hready, hpolling', later, List.mem_append_right _ List.mem_cons_self⟩
      · rw [Program.after_bind]
        refine after_call fun pause => ?_
        have hslept := hready.trans (.one _ (.sleepMs kPollIntervalMs) pause)
        have hpolling'' := @Polling.append _ [⟨.sleepMs kPollIntervalMs, pause⟩] hpolling'
          (.cons (.inr (.inr ⟨_, rfl⟩)) .nil)
        have htime := Ask.le_until_sleep kPollIntervalMs
          (w₁.answered .dataReady (.ok ready, later)).time pause.2
        refine (ih _).mono (fun _ w' => ?_) fun stop w' => ?_
        · rintro ⟨new, hcalled, hnew, t, ht⟩
          exact ⟨_, hslept.trans hcalled, hpolling''.append hnew, t, List.mem_append_right _ ht⟩
        · rintro ⟨new, hcalled, hnew, hend⟩
          refine ⟨_, hslept.trans hcalled, hpolling''.append hnew, ?_⟩
          cases hend with
          | expired h => exact .expired h
          | failed h =>
            obtain ⟨entry, hentry, hfailed⟩ := h
            exact .failed ⟨entry, List.mem_append_right _ hentry, hfailed⟩
          | undefined h =>
            refine .undefined (Nat.le_trans ?_ h)
            have hbefore := hready.time
            have : (w₁.answered .dataReady (.ok ready, later)).time + kPollIntervalMs ≤
              ((w₁.answered .dataReady (.ok ready, later)).answered
                (.sleepMs kPollIntervalMs) pause).time := htime
            rw [Nat.mul_succ]
            omega

end Px4.Card
