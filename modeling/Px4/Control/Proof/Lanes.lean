import Px4.Control.Lanes
import Px4.Lib.Run

/-!
# Every task is executed once

What a lane has accepted is what its thread has executed, the task that it has taken, and the tasks
in the queue; what it has executed is what was popped, the completions in the queue, and the one
that it still has to push (`Holds`).

* `Lane.Holds.popTask`, `Lane.Holds.pushCompletion`, ...: each step of a lane keeps this.
* `Inv.step`: each event does, as long as no call fails.
* `Lanes.advance_rank`: a thread that goes on comes closer to its end.
* `lanes_exactly_once`, `lanes_drain`: what that means for a run, and for its end.
-/

namespace Px4.Control

open Lib

namespace Lane

/-- The tasks in the queue. -/
def queued (s : Lane) : List ControlWorkerTask :=
  Ring.contents s.tasks kControlWorkerQueueCapacity s.taskHead s.taskCount

/-- The completions in the queue. -/
def finished (s : Lane) : List ControlWorkerCompletion :=
  Ring.contents s.completions kControlWorkerQueueCapacity s.completionHead s.completionCount

end Lane

/-- The task that was taken from the queue, and is not executed yet. -/
def Worker.taken : Worker → List ControlWorkerTask
  | .executing task => [task]
  | _ => []

/-- The completion that is not in the queue yet. -/
def Worker.carried : Worker → List ControlWorkerCompletion
  | .pushing completion => [completion]
  | _ => []

/-- The thread counts as active. -/
def Worker.active : Worker → Nat
  | .executing _ | .pushing _ | .signalling | .finishing => 1
  | .waiting | .leaving | .exited => 0

/-- The thread has left its loop. -/
def Worker.left : Worker → Bool
  | .leaving | .exited => true
  | _ => false

/-- What a lane has done is what it was asked for. -/
structure Lane.Holds (s : Lane) (accepted : List ControlWorkerTask)
    (executed : List (ControlWorkerTask × ControlWorkerCompletion))
    (popped : List ControlWorkerCompletion) :
    Prop where
  taskHead : s.taskHead < kControlWorkerQueueCapacity
  taskCount : s.taskCount ≤ kControlWorkerQueueCapacity
  completionHead : s.completionHead < kControlWorkerQueueCapacity
  completionCount : s.completionCount ≤ kControlWorkerQueueCapacity
  asked : accepted = executed.map Prod.fst ++ s.worker.taken ++ s.queued
  done : executed.map Prod.snd = popped ++ s.finished ++ s.worker.carried
  outcome : ∀ e ∈ executed, ∃ services, e.2 = execute services e.1
  activeTasks : s.activeTasks = s.worker.active
  left : s.worker.left = true → s.stopping = true ∧ s.taskCount = 0

theorem Lane.holds_new : ({} : Lane).Holds [] [] [] where
  taskHead := by decide
  taskCount := by decide
  completionHead := by decide
  completionCount := by decide
  asked := rfl
  done := rfl
  outcome := by rintro _ ⟨⟩
  activeTasks := rfl
  left := by rintro ⟨⟩

namespace Lane.Holds

variable {s : Lane} {accepted : List ControlWorkerTask}
  {executed : List (ControlWorkerTask × ControlWorkerCompletion)}
    {popped : List ControlWorkerCompletion}

theorem slot_lt (n : Nat) : n % kControlWorkerQueueCapacity < kControlWorkerQueueCapacity :=
  Nat.mod_lt _ (by decide)

/-- **A task is accepted.** -/
theorem submit (h : s.Holds accepted executed popped) {task : ControlWorkerTask}
    {fault : SubmitFault} {s' : Lane} (hsubmit : s.submit task fault = (s', .ok ())) :
    s'.Holds (accepted ++ [task]) executed popped := by
  unfold Lane.submit at hsubmit
  split at hsubmit
  · cases hsubmit
  split at hsubmit
  · cases hsubmit
  next hrunning =>
  split at hsubmit
  · cases hsubmit
  next hroom =>
  dsimp only at hsubmit
  split at hsubmit
  · cases hsubmit
  cases hsubmit
  have hlt : s.taskCount < kControlWorkerQueueCapacity := Nat.lt_of_le_of_ne h.taskCount hroom
  refine { h with taskCount := hlt, asked := ?_, left :=
    fun hleft => absurd (h.left hleft).1 hrunning }
  show _ = _ ++ _ ++ Ring.contents _ _ _ (s.taskCount + 1)
  rw [Ring.contents_push task hlt, h.asked, List.append_assoc]
  rfl

/-- A task that is not accepted leaves no trace in the queue. -/
theorem submit_error (h : s.Holds accepted executed popped) {task : ControlWorkerTask}
    {fault : SubmitFault} {s' : Lane} {e : Error} (hsubmit : s.submit task fault = (s', .error e)) :
    s'.Holds accepted executed popped := by
  unfold Lane.submit at hsubmit
  split at hsubmit
  · cases hsubmit
    exact h
  split at hsubmit
  · cases hsubmit
    exact h
  split at hsubmit
  · cases hsubmit
    exact h
  next hroom =>
  dsimp only at hsubmit
  split at hsubmit
  · cases hsubmit
    refine { h with asked := ?_ }
    show _ = _ ++ _ ++ Ring.contents _ _ _ s.taskCount
    rw [Ring.contents_update task (Nat.lt_of_le_of_ne h.taskCount hroom)]
    exact h.asked
  · cases hsubmit

/-- `submit` does not touch the completions. -/
theorem submit_frame (s : Lane) (task : ControlWorkerTask) (fault : SubmitFault) :
    (s.submit task fault).1.completionCount = s.completionCount ∧
    (s.submit task fault).1.worker = s.worker := by
  unfold Lane.submit
  dsimp only
  repeat' split
  all_goals exact ⟨rfl, rfl⟩

/-- **The thread takes a task**, waits, or leaves. -/
theorem popTask (h : s.Holds accepted executed popped) (hworker : s.worker = .waiting) :
    s.popTask.Holds accepted executed popped := by
  have hactive := h.activeTasks
  have hasked := h.asked
  have hdone := h.done
  rw [hworker] at hactive hasked hdone
  unfold Lane.popTask
  split
  next hempty =>
    split
    next hstopping =>
      exact { h with asked := hasked, done := hdone, activeTasks := hactive, left :=
        fun _ => ⟨hstopping, hempty⟩ }
    · exact h
  next hsome =>
    have hpos := h.taskCount
    refine { h with
      taskHead := slot_lt _, taskCount := by dsimp only; omega, asked := ?_, done := hdone
      activeTasks := congrArg (· + 1) hactive, left := ?_ }
    · rw [hasked, Lane.queued, Ring.contents_pop hsome h.taskHead]
      simp only [Worker.taken, List.append_assoc, List.nil_append, List.cons_append]
      rfl
    · rintro ⟨⟩

/-- **The thread executes a task.** -/
theorem execute (h : s.Holds accepted executed popped) {task : ControlWorkerTask}
    (hworker : s.worker = .executing task) (services : Services) :
    { s with worker := .pushing (Control.execute services task) : Lane }.Holds accepted
      (executed ++ [(task, Control.execute services task)]) popped := by
  have hactive := h.activeTasks
  have hasked := h.asked
  have hdone := h.done
  rw [hworker] at hactive hasked hdone
  refine { h with asked := ?_, done := ?_, outcome := ?_, activeTasks := hactive, left := ?_ }
  · rw [hasked]
    simp only [Worker.taken, List.map_append, List.map_cons, List.map_nil, List.append_nil]
    rfl
  · rw [List.map_append, hdone]
    simp only [Worker.carried, List.map_cons, List.map_nil, List.append_nil]
    rfl
  · intro e he
    obtain he | he := List.mem_append.1 he
    · exact h.outcome e he
    · rw [List.mem_singleton.1 he]
      exact ⟨services, rfl⟩
  · rintro ⟨⟩

/-- **The thread pushes a completion**, or waits for room. -/
theorem pushCompletion (h : s.Holds accepted executed popped) {completion : ControlWorkerCompletion}
    (hworker : s.worker = .pushing completion) :
    (s.pushCompletion completion).Holds accepted executed popped := by
  have hactive := h.activeTasks
  have hasked := h.asked
  have hdone := h.done
  rw [hworker] at hactive hasked hdone
  unfold Lane.pushCompletion
  split
  · exact h
  next hroom =>
    have hlt : s.completionCount < kControlWorkerQueueCapacity :=
      Nat.lt_of_le_of_ne h.completionCount hroom
    refine { h with
      completionCount := hlt, asked := hasked, done := ?_, activeTasks := hactive, left := ?_ }
    · show _ = _ ++ Ring.contents _ _ _ (s.completionCount + 1) ++ _
      rw [Ring.contents_push completion hlt, hdone]
      simp only [Worker.carried, List.append_assoc, List.append_nil]
      rfl
    · rintro ⟨⟩

/-- The thread goes on from a place to another one that makes no difference. -/
theorem goOn (h : s.Holds accepted executed popped) (worker : Worker) (activeTasks : Nat)
    (htaken : worker.taken = s.worker.taken) (hcarried : worker.carried = s.worker.carried)
    (hactive : activeTasks = worker.active)
    (hleft : worker.left = true → s.stopping = true ∧ s.taskCount = 0) :
    { s with worker, activeTasks : Lane }.Holds accepted executed popped :=
  { h with
    asked := by
      show _ = _ ++ worker.taken ++ _
      rw [htaken]
      exact h.asked
    done := by
      show _ = _ ++ _ ++ worker.carried
      rw [hcarried]
      exact h.done
    activeTasks := hactive
    left := hleft }

/-- **A completion is popped.** -/
theorem tryPop (h : s.Holds accepted executed popped) {s' : Lane}
    {completion : ControlWorkerCompletion} (hpop : s.tryPop = (s', some completion)) :
    s'.Holds accepted executed (popped ++ [completion]) := by
  unfold Lane.tryPop at hpop
  split at hpop
  · cases hpop
  next hsome =>
    cases hpop
    have hpos := h.completionCount
    refine { h with
      completionHead := slot_lt _, completionCount := by dsimp only; omega, done := ?_ }
    rw [h.done, Lane.finished, Ring.contents_pop hsome h.completionHead]
    simp only [List.append_assoc, List.cons_append, List.nil_append]
    rfl

theorem stop (h : s.Holds accepted executed popped) : s.stop.Holds accepted executed popped :=
  { h with left := fun hleft => ⟨rfl, (h.left hleft).2⟩ }

end Lane.Holds

/-! ## All lanes -/

namespace Traced

/-- What a lane has done, and that the thread of the server will look at its completions: it still
has to, the pipe wakes it, or the thread of the lane is about to. -/
structure Good (r : Traced) (lane : ControlWorkerLane) : Prop where
  holds : (r.lanes.lane lane).Holds (r.accepted lane) (r.executed lane) (r.popped lane)
  valid : ∀ task ∈ r.accepted lane, operationLaneValid lane task = true
  awake : (r.lanes.lane lane).completionCount ≠ 0 →
    r.unchecked lane = true ∨ 0 < r.lanes.wake ∨ (r.lanes.lane lane).worker = .signalling

/-- What holds as long as no call has failed. -/
structure Inv (r : Traced) : Prop where
  wakeCapacity : 0 < r.lanes.wakeCapacity
  good : r.lanes.workerError = none → ∀ lane, r.Good lane

variable {r : Traced} {lane : ControlWorkerLane}

/-- A step at one lane leaves the other lanes as they are. -/
theorem good_of_eq {r' : Traced} {l : ControlWorkerLane} (h : r.Good l)
    (hlane : r'.lanes.lane l = r.lanes.lane l) (haccepted : r'.accepted l = r.accepted l)
    (hexecuted : r'.executed l = r.executed l) (hpopped : r'.popped l = r.popped l)
    (hunchecked : r'.unchecked l = r.unchecked l)
    (hwake : 0 < r.lanes.wake → 0 < r'.lanes.wake) : r'.Good l := by
  refine ⟨?_, ?_, ?_⟩
  · rw [hlane, haccepted, hexecuted, hpopped]
    exact h.holds
  · rw [haccepted]
    exact h.valid
  · rw [hlane, hunchecked]
    exact fun hsome => (h.awake hsome).imp_right (Or.imp_left hwake)

@[simp] theorem set_self (x : Lanes) (lane : ControlWorkerLane) (s : Lane) :
    (x.set lane s).lane lane = s := by
  simp [Lanes.set]

theorem set_of_ne (x : Lanes) {lane l : ControlWorkerLane} (s : Lane) (h : l ≠ lane) :
    (x.set lane s).lane l = x.lane l := by
  simp [Lanes.set, h]

@[simp] theorem set_wake (x : Lanes) (lane : ControlWorkerLane) (s : Lane) :
    (x.set lane s).wake = x.wake := rfl

@[simp] theorem set_wakeCapacity (x : Lanes) (lane : ControlWorkerLane) (s : Lane) :
    (x.set lane s).wakeCapacity = x.wakeCapacity := rfl

@[simp] theorem set_workerError (x : Lanes) (lane : ControlWorkerLane) (s : Lane) :
    (x.set lane s).workerError = x.workerError := rfl

@[simp] theorem snoc_self {α : Type} (lists : ControlWorkerLane → List α)
    (lane : ControlWorkerLane) (value : α) :
    snoc lists lane value lane = lists lane ++ [value] := by
  simp [snoc]

theorem snoc_of_ne {α : Type} (lists : ControlWorkerLane → List α)
    {lane l : ControlWorkerLane} (value : α) (h : l ≠ lane) :
    snoc lists lane value l = lists l := by
  simp [snoc, h]

/-- A lane that is as it was, apart from what `h` says of it. -/
theorem Inv.of_good {r' : Traced} (h : r.Inv) (lane : ControlWorkerLane)
    (hcapacity : r'.lanes.wakeCapacity = r.lanes.wakeCapacity)
    (herror : r'.lanes.workerError = none → r.lanes.workerError = none)
    (hgood : r.Good lane → r'.lanes.workerError = none → r'.Good lane)
    (hother : ∀ l, l ≠ lane → r.Good l → r'.lanes.workerError = none → r'.Good l) : r'.Inv := by
  refine ⟨hcapacity ▸ h.wakeCapacity, fun hnone l => ?_⟩
  have hl := h.good (herror hnone) l
  by_cases heq : l = lane
  · subst heq
    exact hgood hl hnone
  · exact hother l heq hl hnone

theorem Inv.submit (h : r.Inv) (lane : ControlWorkerLane) (task : ControlWorkerTask)
    (fault : Lane.SubmitFault) :
    (r.submit lane task fault).Inv := by
  by_cases hvalid : operationLaneValid lane task = true
  · have hframe := Lane.Holds.submit_frame (r.lanes.lane lane) task fault
    rcases hsubmit : (r.lanes.lane lane).submit task fault with ⟨s, e | ⟨⟨⟩⟩⟩
    · rw [hsubmit] at hframe
      dsimp only at hframe
      have heq : r.submit lane task fault = { r with lanes := r.lanes.set lane s } := by
        simp [Traced.submit, Lanes.submit, hvalid, hsubmit]
      rw [heq]
      refine h.of_good lane rfl id (fun hgood _ => ⟨?_, hgood.valid, ?_⟩) fun l hl hgood _ => ?_
      · simpa using hgood.holds.submit_error hsubmit
      · simpa [hframe] using hgood.awake
      · exact good_of_eq hgood (set_of_ne _ _ hl) rfl rfl rfl rfl id
    · rw [hsubmit] at hframe
      dsimp only at hframe
      have heq : r.submit lane task fault =
          { r with lanes := r.lanes.set lane s, accepted := snoc r.accepted lane task } := by
        simp [Traced.submit, Lanes.submit, hvalid, hsubmit]
      rw [heq]
      refine h.of_good lane rfl id (fun hgood _ => ⟨?_, fun t ht => ?_, ?_⟩) fun l hl hgood _ => ?_
      · simpa using hgood.holds.submit hsubmit
      · obtain ht | rfl := by simpa using ht
        · exact hgood.valid t ht
        · exact hvalid
      · simpa [hframe] using hgood.awake
      · exact good_of_eq hgood (set_of_ne _ _ hl) (snoc_of_ne _ _ hl) rfl rfl rfl id
  · have heq : r.submit lane task fault = r := by
      simp [Traced.submit, Lanes.submit, hvalid]
    rwa [heq]

theorem Inv.tryPop (h : r.Inv) (lane : ControlWorkerLane) (fails : Bool) :
    (r.tryPop lane fails).Inv := by
  cases fails with
  | true =>
    refine ⟨h.wakeCapacity, ?_⟩
    rintro ⟨⟩
  | false =>
    rcases hpop : (r.lanes.lane lane).tryPop with ⟨s, _ | completion⟩
    · have hempty : s = r.lanes.lane lane ∧ (r.lanes.lane lane).completionCount = 0 := by
        unfold Lane.tryPop at hpop
        split at hpop
        next hzero =>
          cases hpop
          exact ⟨rfl, hzero⟩
        · cases hpop
      have heq : r.tryPop lane false =
          { r with lanes := r.lanes.set lane s, unchecked :=
            Function.update r.unchecked lane false } := by
        simp [Traced.tryPop, Lanes.tryPop, hpop]
      rw [heq, hempty.1]
      refine h.of_good lane rfl id (fun hgood _ => ⟨?_, hgood.valid, fun hsome => ?_⟩)
        fun l hl hgood _ => ?_
      · simpa using hgood.holds
      · rw [set_self] at hsome
        exact absurd hempty.2 hsome
      · exact good_of_eq hgood (set_of_ne _ _ hl) rfl rfl rfl (Function.update_of_ne hl _ _) id
    · have hframe : s.worker = (r.lanes.lane lane).worker ∧
          (r.lanes.lane lane).completionCount ≠ 0 := by
        unfold Lane.tryPop at hpop
        split at hpop
        · cases hpop
        next hsome =>
          cases hpop
          exact ⟨rfl, hsome⟩
      have heq : r.tryPop lane false =
          { r with lanes := r.lanes.set lane s, popped := snoc r.popped lane completion } := by
        simp [Traced.tryPop, Lanes.tryPop, hpop]
      rw [heq]
      refine h.of_good lane rfl id (fun hgood _ => ⟨?_, hgood.valid, fun _ => ?_⟩)
        fun l hl hgood _ => ?_
      · simpa using hgood.holds.tryPop hpop
      · simpa [hframe.1] using hgood.awake hframe.2
      · exact good_of_eq hgood (set_of_ne _ _ hl) rfl rfl (snoc_of_ne _ _ hl) rfl id

theorem Inv.stop (h : r.Inv) (lane : ControlWorkerLane) (fails : Bool) :
    ({ r with lanes := r.lanes.stop lane fails } : Traced).Inv := by
  cases fails with
  | true =>
    refine ⟨h.wakeCapacity, ?_⟩
    rintro ⟨⟩
  | false =>
    show ({ r with lanes := r.lanes.set lane (r.lanes.lane lane).stop } : Traced).Inv
    refine h.of_good lane rfl id (fun hgood _ => ⟨?_, hgood.valid, ?_⟩) fun l hl hgood _ => ?_
    · simpa using hgood.holds.stop
    · simpa [Lane.stop] using hgood.awake
    · exact good_of_eq hgood (set_of_ne _ _ hl) rfl rfl rfl rfl id

/-- A step of a thread that neither executes nor wakes anybody. -/
theorem Inv.set (h : r.Inv) (lane : ControlWorkerLane) {s : Lane}
    (hholds : ∀ accepted executed popped, (r.lanes.lane lane).Holds accepted executed popped →
      s.Holds accepted executed popped)
    (hawake : s.completionCount ≠ 0 → s.worker = .signalling ∨
      s.completionCount = (r.lanes.lane lane).completionCount ∧
      (r.lanes.lane lane).worker ≠ .signalling) :
    ({ r with lanes := r.lanes.set lane s } : Traced).Inv := by
  refine h.of_good lane rfl id (fun hgood _ => ⟨?_, hgood.valid, fun hsome => ?_⟩)
    fun l hl hgood _ => ?_
  · simpa using hholds _ _ _ hgood.holds
  · rw [set_self] at hsome ⊢
    obtain hsignalling | ⟨hcount, hworker⟩ := hawake hsome
    · exact .inr (.inr hsignalling)
    · obtain hunchecked | hwake | hsignalling := hgood.awake (hcount ▸ hsome)
      · exact .inl hunchecked
      · exact .inr (.inl hwake)
      · exact absurd hsignalling hworker
  · exact good_of_eq hgood (set_of_ne _ _ hl) rfl rfl rfl rfl id

/-- A call that fails leaves nothing to be said. -/
theorem Inv.of_error {r' : Traced} (hcapacity : 0 < r'.lanes.wakeCapacity)
    (herror : r'.lanes.workerError ≠ none) :
    r'.Inv := ⟨hcapacity, fun hnone => absurd hnone herror⟩

/-- **A step of a thread.** -/
theorem Inv.advance (h : r.Inv) (lane : ControlWorkerLane) (services : Services) (fails : Bool) :
    (r.advance lane services fails).Inv := by
  unfold Traced.advance Lanes.advance
  dsimp only
  cases hworker : (r.lanes.lane lane).worker with
  | waiting =>
    cases fails with
    | true => exact .of_error h.wakeCapacity (by rintro ⟨⟩)
    | false =>
      refine h.set lane (fun _ _ _ hl => hl.popTask hworker) fun _ => .inr ⟨?_, ?_⟩
      · unfold Lane.popTask
        repeat' split
        all_goals rfl
      · rw [hworker]
        rintro ⟨⟩
  | executing task =>
    refine h.of_good lane rfl id (fun hgood _ => ⟨?_, hgood.valid, ?_⟩) fun l hl hgood _ => ?_
    · simpa using hgood.holds.execute hworker services
    · simpa [hworker] using hgood.awake
    · exact good_of_eq hgood (set_of_ne _ _ hl) rfl (snoc_of_ne _ _ hl) rfl rfl id
  | pushing completion =>
    cases fails with
    | true => exact .of_error h.wakeCapacity (by rintro ⟨⟩)
    | false =>
      refine h.set lane (fun _ _ _ hl => hl.pushCompletion hworker) fun _ => ?_
      unfold Lane.pushCompletion
      split
      · right
        rw [hworker]
        exact ⟨rfl, by rintro ⟨⟩⟩
      · exact .inl rfl
  | signalling =>
    cases fails with
    | true => exact .of_error h.wakeCapacity (by rintro ⟨⟩)
    | false =>
      have hcapacity := h.wakeCapacity
      have hwake : 0 < (if r.lanes.wake < r.lanes.wakeCapacity then r.lanes.wake + 1
          else r.lanes.wake) := by
        split <;> omega
      refine h.of_good lane rfl id (fun hgood _ => ⟨?_, hgood.valid, fun _ => .inr (.inl hwake)⟩)
        fun l hl hgood _ => ?_
      · have hactive := hgood.holds.activeTasks
        rw [hworker] at hactive
        have hnext := hgood.holds.goOn .finishing (r.lanes.lane lane).activeTasks
          (by rw [hworker]; rfl) (by rw [hworker]; rfl) hactive (by rintro ⟨⟩)
        simpa [Lanes.signal] using hnext
      · exact good_of_eq hgood (set_of_ne _ _ hl) rfl rfl rfl rfl fun _ => hwake
  | finishing =>
    refine h.set lane (fun _ _ _ hl => ?_) fun _ => .inr ⟨rfl, ?_⟩
    · have hactive := hl.activeTasks
      rw [hworker] at hactive
      exact hl.goOn _ _ (by rw [hworker]; rfl) (by rw [hworker]; rfl)
        (by rw [hactive]; rfl) (by rintro ⟨⟩)
    · rw [hworker]
      rintro ⟨⟩
  | leaving =>
    have hset : ({ r with lanes := r.lanes.set lane { r.lanes.lane lane with worker := .exited } } :
      Traced).Inv := by
      refine h.set lane (fun _ _ _ hl => ?_) fun _ => .inr ⟨rfl, ?_⟩
      · have hactive := hl.activeTasks
        have hleft := hl.left
        rw [hworker] at hactive hleft
        exact hl.goOn _ _ (by rw [hworker]; rfl) (by rw [hworker]; rfl) hactive hleft
      · rw [hworker]
        rintro ⟨⟩
    exact ⟨hset.wakeCapacity, fun herror l =>
      ⟨(hset.good herror l).holds, (hset.good herror l).valid,
      (hset.good herror l).awake⟩⟩
  | exited => exact h

theorem Inv.drain (h : r.Inv) :
    ({ r with lanes := r.lanes.drain, unchecked := fun _ => true } : Traced).Inv := by
  refine ⟨h.wakeCapacity, fun herror lane => ?_⟩
  have hgood := h.good herror lane
  exact ⟨hgood.holds, hgood.valid, fun _ => .inl rfl⟩

/-- **Every event.** -/
theorem Inv.step (r : Traced) (event : Event) (h : r.Inv) : (r.step event).Inv := by
  cases event with
  | submit lane task fault => exact h.submit lane task fault
  | tryPop lane fails => exact h.tryPop lane fails
  | stop lane fails => exact h.stop lane fails
  | drain => exact h.drain
  | advance lane services fails => exact h.advance lane services fails

theorem Inv.created {wakeCapacity : Nat} (h : 0 < wakeCapacity) :
    (Traced.created wakeCapacity).Inv := by
  refine ⟨h, fun _ lane => ⟨Lane.holds_new, ?_, ?_⟩⟩
  · rintro _ ⟨⟩
  · exact fun hsome => absurd rfl hsome

/-- **Every run.** -/
theorem Inv.run {wakeCapacity : Nat} (h : 0 < wakeCapacity) (events : List Event) :
    ((Traced.created wakeCapacity).run events).Inv := foldl_inv Inv.step events (Inv.created h)

end Traced

/-! ## The end of the threads -/

/-- How far a thread is from its end, but for the tasks in the queue. -/
def Worker.weight : Worker → Nat
  | .executing _ => 7
  | .pushing _ => 6
  | .signalling => 4
  | .finishing => 3
  | .waiting => 2
  | .leaving => 1
  | .exited => 0

/-- How far a lane is from its end. -/
def Lane.rank (s : Lane) : Nat := 6 * s.taskCount + s.completionCount + s.worker.weight

/-- Whether the thread has not ended. -/
def Lane.running (s : Lane) : Nat := if s.worker = .exited then 0 else 1

/-- A sum over the lanes. -/
def Lanes.total (x : Lanes) (f : Lane → Nat) : Nat :=
  f (x.lane .tunerDev1) + f (x.lane .tunerDev2) + f (x.lane .card)

theorem Lanes.total_set (x : Lanes) (lane : ControlWorkerLane) (s : Lane) (f : Lane → Nat) :
    (x.set lane s).total f + f (x.lane lane) = x.total f + f s := by
  unfold Lanes.total Lanes.set
  cases lane
  all_goals
    simp [Function.update]
    omega

/-- The number of threads is that of the threads that have not ended. -/
def Lanes.Counted (x : Lanes) : Prop := x.liveThreads = x.total Lane.running

theorem Lanes.Counted.set {x : Lanes} (h : x.Counted) (lane : ControlWorkerLane) {s : Lane}
    (hs : s.running = (x.lane lane).running) : (x.set lane s).Counted := by
  have htotal := x.total_set lane s Lane.running
  rw [hs] at htotal
  exact h.trans (Nat.add_right_cancel htotal).symm

theorem Lanes.Counted.advance {x : Lanes} (h : x.Counted) (lane : ControlWorkerLane)
    (services : Services) (fails : Bool) : (x.advance lane services fails).Counted := by
  have hrunning : ∀ s : Lane, s.worker ≠ .exited → s.running = 1 := fun s hs => if_neg hs
  have hnot (hworker : (x.lane lane).worker ≠ .exited) {s : Lane} (hs : s.worker ≠ .exited) :
      (x.set lane s).Counted :=
    h.set lane ((hrunning _ hs).trans (hrunning _ hworker).symm)
  unfold Lanes.advance
  dsimp only
  cases hworker : (x.lane lane).worker with
  | waiting =>
    have hne : (x.lane lane).worker ≠ .exited := by simp [hworker]
    dsimp only
    split
    · exact hnot hne (s := { x.lane lane with worker := .leaving }) (by rintro ⟨⟩)
    · refine hnot hne ?_
      unfold Lane.popTask
      split
      · split
        · rintro ⟨⟩
        · exact hne
      · rintro ⟨⟩
  | executing task => exact hnot (by simp [hworker]) (by rintro ⟨⟩)
  | pushing completion =>
    have hne : (x.lane lane).worker ≠ .exited := by simp [hworker]
    dsimp only
    split
    · exact hnot hne (s := { x.lane lane with worker := .finishing }) (by rintro ⟨⟩)
    · refine hnot hne ?_
      unfold Lane.pushCompletion
      split
      · exact hne
      · rintro ⟨⟩
  | signalling =>
    have hset := hnot (by simp [hworker]) (s := { x.lane lane with worker := .finishing })
      (by rintro ⟨⟩)
    dsimp only
    unfold Lanes.signal
    split <;> exact hset
  | finishing => exact hnot (by simp [hworker]) (by rintro ⟨⟩)
  | leaving =>
    have htotal := x.total_set lane { x.lane lane with worker := .exited } Lane.running
    have hone : (x.lane lane).running = 1 := hrunning _ (by simp [hworker])
    have hzero : ({ x.lane lane with worker := .exited } : Lane).running = 0 := rfl
    rw [hone, hzero] at htotal
    show x.liveThreads - 1 = (x.set lane { x.lane lane with worker := .exited }).total Lane.running
    rw [h]
    omega
  | exited => exact h

theorem Traced.submit_lanes (r : Traced) (lane : ControlWorkerLane) (task : ControlWorkerTask)
    (fault : Lane.SubmitFault) : (r.submit lane task fault).lanes =
    (r.lanes.submit lane task fault).1 := by
  unfold Traced.submit
  split <;> next heq => rw [heq]

theorem Traced.tryPop_lanes (r : Traced) (lane : ControlWorkerLane) (fails : Bool) :
    (r.tryPop lane fails).lanes = (r.lanes.tryPop lane fails).1 := by
  unfold Traced.tryPop
  split <;> next heq => rw [heq]

theorem Traced.advance_lanes (r : Traced) (lane : ControlWorkerLane)
    (services : Services) (fails : Bool) :
    (r.advance lane services fails).lanes = r.lanes.advance lane services fails := by
  unfold Traced.advance
  dsimp only
  split <;> rfl

theorem Traced.counted_step (r : Traced) (event : Event) (h : r.lanes.Counted) :
    (r.step event).lanes.Counted := by
  cases event with
  | submit lane task fault =>
    show (r.submit lane task fault).lanes.Counted
    rw [submit_lanes]
    unfold Lanes.submit
    split
    · exact h
    · refine h.set lane ?_
      unfold Lane.running
      rw [(Lane.Holds.submit_frame _ task fault).2]
  | tryPop lane fails =>
    show (r.tryPop lane fails).lanes.Counted
    rw [tryPop_lanes]
    unfold Lanes.tryPop
    split
    · exact h
    · refine h.set lane ?_
      unfold Lane.tryPop
      split <;> rfl
  | stop lane fails =>
    show (r.lanes.stop lane fails).Counted
    unfold Lanes.stop
    split
    · exact h
    · exact h.set lane rfl
  | drain => exact h
  | advance lane services fails =>
    show (r.advance lane services fails).lanes.Counted
    rw [advance_lanes]
    exact h.advance lane services fails

theorem Traced.counted_run (wakeCapacity : Nat) (events : List Event) :
    ((created wakeCapacity).run events).lanes.Counted := foldl_inv Traced.counted_step events rfl

/-- **A thread that goes on comes closer to its end.** It does not go on if there is nothing to do
and it is not to stop, if there is no room for its completion, or at its end. -/
theorem Lanes.advance_rank (x : Lanes) (lane : ControlWorkerLane) (services : Services) :
    (x.advance lane services false).total Lane.rank < x.total Lane.rank ∨
      x.advance lane services false = x ∧ ((x.lane lane).stopping = true →
        (x.lane lane).worker = .exited ∨ (x.lane lane).completionCount =
        kControlWorkerQueueCapacity) := by
  have hset {s : Lane} (hs : s.rank < (x.lane lane).rank) :
      (x.set lane s).total Lane.rank < x.total Lane.rank := by
    have htotal := x.total_set lane s Lane.rank
    omega
  have hself : x.set lane (x.lane lane) = x := by simp [Lanes.set]
  cases hworker : (x.lane lane).worker with
  | waiting =>
    have hx : x.advance lane services false = x.set lane (x.lane lane).popTask := by
      simp [Lanes.advance, hworker]
    rw [hx]
    by_cases hempty : (x.lane lane).taskCount = 0
    · by_cases hstopping : (x.lane lane).stopping = true
      · have hpop : (x.lane lane).popTask = { x.lane lane with worker := .leaving } := by
          simp [Lane.popTask, hempty, hstopping]
        rw [hpop]
        exact .inl (hset (by simp [Lane.rank, hworker, Worker.weight]))
      · have hpop : (x.lane lane).popTask = x.lane lane := by simp [Lane.popTask, hempty, hstopping]
        rw [hpop]
        exact .inr ⟨hself, fun h => absurd h hstopping⟩
    · refine .inl (hset ?_)
      unfold Lane.popTask
      rw [if_neg hempty]
      simp only [Lane.rank, hworker, Worker.weight]
      omega
  | executing task =>
    have hx : x.advance lane services false =
        x.set lane { x.lane lane with worker := .pushing (execute services task) } := by
      simp [Lanes.advance, hworker]
    rw [hx]
    exact .inl (hset (by simp [Lane.rank, hworker, Worker.weight]))
  | pushing completion =>
    have hx : x.advance lane services false = x.set lane
        ((x.lane lane).pushCompletion completion) := by
      simp [Lanes.advance, hworker]
    rw [hx]
    by_cases hfull : (x.lane lane).completionCount = kControlWorkerQueueCapacity
    · have hpush : (x.lane lane).pushCompletion completion = x.lane lane := if_pos hfull
      rw [hpush]
      exact .inr ⟨hself, fun _ => .inr hfull⟩
    · refine .inl (hset ?_)
      unfold Lane.pushCompletion
      rw [if_neg hfull]
      simp only [Lane.rank, hworker, Worker.weight]
      omega
  | signalling =>
    have hx : (x.advance lane services false).total Lane.rank =
        (x.set lane { x.lane lane with worker := .finishing }).total Lane.rank := by
      simp [Lanes.advance, hworker, Lanes.signal, Lanes.total]
    rw [hx]
    exact .inl (hset (by simp [Lane.rank, hworker, Worker.weight]))
  | finishing =>
    have hx : x.advance lane services false = x.set lane
        { x.lane lane with activeTasks := (x.lane lane).activeTasks - 1, worker := .waiting } := by
      simp [Lanes.advance, hworker]
    rw [hx]
    exact .inl (hset (by simp [Lane.rank, hworker, Worker.weight]))
  | leaving =>
    have hx : (x.advance lane services false).total Lane.rank =
        (x.set lane { x.lane lane with worker := .exited }).total Lane.rank := by
      simp [Lanes.advance, hworker, Lanes.total]
    rw [hx]
    exact .inl (hset (by simp [Lane.rank, hworker, Worker.weight]))
  | exited =>
    have hx : x.advance lane services false = x := by simp [Lanes.advance, hworker]
    exact .inr ⟨hx, fun _ => .inl rfl⟩

/-- A completion that is popped brings its lane closer to its end. -/
theorem Lanes.tryPop_rank {x x' : Lanes} {lane : ControlWorkerLane}
    {completion : ControlWorkerCompletion} (h : x.tryPop lane false = (x', some completion)) :
    x'.total Lane.rank < x.total Lane.rank := by
  have htotal := x.total_set lane (x.lane lane).tryPop.1 Lane.rank
  cases hpop : (x.lane lane).tryPop with
  | mk s popped =>
    have hx : x' = x.set lane s ∧ popped = some completion := by
      simp [Lanes.tryPop, hpop] at h
      exact ⟨h.1.symm, h.2⟩
    have hrank : s.rank < (x.lane lane).rank := by
      unfold Lane.tryPop at hpop
      split at hpop
      · cases hpop
        cases hx.2
      next hsome =>
        cases hpop
        simp only [Lane.rank]
        omega
    rw [hpop] at htotal
    rw [hx.1]
    dsimp only at htotal
    omega

/-! ## What a run comes to -/

/-- A lane whose thread is not active has nothing in its hands. -/
theorem Worker.not_active {w : Worker} (h : w.active = 0) : w.taken = [] ∧ w.carried = [] := by
  cases w with
  | executing task | pushing completion => cases h
  | waiting | signalling | finishing | leaving | exited => exact ⟨rfl, rfl⟩

/-- Nothing is left of what a lane was asked for, if its queues are empty and its thread is not
active. -/
theorem Lane.Holds.all_done {s : Lane} {accepted : List ControlWorkerTask}
    {executed : List (ControlWorkerTask × ControlWorkerCompletion)}
    {popped : List ControlWorkerCompletion} (h : s.Holds accepted executed popped)
    (htasks : s.taskCount = 0) (hcompletions : s.completionCount = 0)
    (hworker : s.worker.active = 0) : executed.map Prod.fst = accepted ∧
    popped = executed.map Prod.snd := by
  have hasked := h.asked
  have hdone := h.done
  obtain ⟨htaken, hcarried⟩ := Worker.not_active hworker
  rw [Lane.queued, htasks, htaken, Ring.contents_zero, List.append_nil, List.append_nil] at hasked
  rw [Lane.finished, hcompletions, hcarried, Ring.contents_zero, List.append_nil,
    List.append_nil] at hdone
  exact ⟨hasked.symm, hdone.symm⟩

/-- The tasks that were accepted and those whose completions were popped, in numbers. -/
theorem Lane.Holds.length {s : Lane} {accepted : List ControlWorkerTask}
    {executed : List (ControlWorkerTask × ControlWorkerCompletion)}
    {popped : List ControlWorkerCompletion} (h : s.Holds accepted executed popped) :
    accepted.length = popped.length + s.completionCount + s.worker.carried.length +
    s.worker.taken.length +
      s.taskCount := by
  have hasked := congrArg List.length h.asked
  have hdone := congrArg List.length h.done
  simp only [List.length_append, List.length_map, Lane.queued, Lane.finished,
    Ring.contents_length] at hasked hdone
  omega

theorem Worker.hands (w : Worker) : w.carried.length + w.taken.length ≤ 1 := by
  cases w with
  | executing task | pushing completion => exact Nat.le_refl 1
  | waiting | signalling | finishing | leaving | exited => exact Nat.zero_le 1

/-- A lane is idle if nothing is left to do and the thread knows it. -/
theorem Lane.Holds.idle_iff {s : Lane} {accepted : List ControlWorkerTask}
    {executed : List (ControlWorkerTask × ControlWorkerCompletion)}
    {popped : List ControlWorkerCompletion} (h : s.Holds accepted executed popped) :
    s.idle = true ↔ accepted.length = popped.length ∧ s.worker.active = 0 := by
  have hlength := h.length
  unfold Lane.idle
  rw [h.activeTasks, Bool.and_eq_true, Bool.and_eq_true, beq_iff_eq, beq_iff_eq, beq_iff_eq]
  constructor
  · rintro ⟨⟨htasks, hcompletions⟩, hactive⟩
    obtain ⟨htaken, hcarried⟩ := Worker.not_active hactive
    rw [htasks, hcompletions, htaken, hcarried] at hlength
    exact ⟨hlength, hactive⟩
  · rintro ⟨heq, hactive⟩
    exact ⟨⟨by omega, by omega⟩, hactive⟩

/-- Services that find nothing. -/
def notThere : Services
  | .acquire .. | .tune .. | .stopStream .. | .stats .. | .attachStream
      .. | .tunerStatus | .cardStatus
  | .handleStatus .. | .pollPresence | .connect .. | .reconnect .. | .reset
      .. | .transmit .. | .release ..
  | .startStream .. | .detachStream .. | .tunerShutdown | .disconnect .. | .beginTransaction
      .. | .endTransaction ..
  | .releaseConnection .. | .cardShutdown => .error .notFound

/-- **Every task that a lane accepts is executed once, and its completion is popped once, in
order**, as long as no call of `pthread` or of the pipe fails. A lane is idle if and only if all its
tasks are done. The completions that come to a lane after the server has found it empty, with no
read of the pipe in between, keep the pipe readable, or will. -/
theorem lanes_exactly_once {wakeCapacity : Nat} (hcapacity : 0 < wakeCapacity)
    (events : List Event) :
    let r := (Traced.created wakeCapacity).run events
    r.lanes.workerError = none → ∀ lane,
      (r.executed lane).map Prod.fst <+: r.accepted lane ∧
      r.popped lane <+: (r.executed lane).map Prod.snd ∧
      (∀ e ∈ r.executed lane, ∃ services, e.2 = execute services e.1) ∧
      (∀ task ∈ r.accepted lane, operationLaneValid lane task = true) ∧
      (r.accepted lane).length ≤ (r.popped lane).length + 2 * kControlWorkerQueueCapacity + 1 ∧
      ((r.lanes.lane lane).idle = true ↔
        (r.accepted lane).length = (r.popped lane).length ∧ (r.lanes.lane lane).worker.active = 0) ∧
      (r.unchecked lane = false → (r.lanes.lane lane).completionCount ≠ 0 →
        0 < r.lanes.wake ∨ (r.lanes.lane lane).worker = .signalling) := by
  intro r herror lane
  have hgood : r.Good lane := (Traced.Inv.run hcapacity events).good herror lane
  have hholds := hgood.holds
  have hlength := hholds.length
  have hhands := (r.lanes.lane lane).worker.hands
  have htasks := hholds.taskCount
  have hcompletions := hholds.completionCount
  refine ⟨?_, ?_, hholds.outcome, hgood.valid, by omega, hholds.idle_iff, fun hchecked hsome => ?_⟩
  · rw [hholds.asked, List.append_assoc]
    exact List.prefix_append _ _
  · rw [hholds.done, List.append_assoc]
    exact List.prefix_append _ _
  · obtain hunchecked | hawake := hgood.awake hsome
    · rw [hchecked] at hunchecked
      cases hunchecked
    · exact hawake

/-- Two tasks on one lane, of which one is done. -/
def twoTasks : List Event :=
  [.submit .card { operation := .cardConnect, clientId := 1 } .none,
    .submit .card { operation := .cardReleaseConnection, clientId := 1 } .none,
    .advance .card notThere false,
    .advance .card notThere false, .advance .card notThere false,
    .advance .card notThere false, .drain,
    .tryPop .card false, .tryPop .card false]

theorem lanes_exactly_once_two :
    let r := (Traced.created 1).run twoTasks
    (r.accepted .card).length = 2 ∧ (r.popped .card).map (·.error) = [some .notFound] ∧
      r.popped .card <+: (r.executed .card).map Prod.snd :=
  ⟨by decide +kernel, by decide +kernel,
    (lanes_exactly_once (by decide) twoTasks (by decide +kernel) .card).2.1⟩

/-- **After `stop`, the lanes are emptied**: every step that a thread takes, and every completion
that is popped, brings the lanes closer to their end, so that it comes. When no thread goes on and
there is nothing left to pop, all threads have ended, and all tasks that were accepted have been
executed and their completions popped. -/
theorem lanes_drain {wakeCapacity : Nat} (hcapacity : 0 < wakeCapacity) (events : List Event) :
    let r := (Traced.created wakeCapacity).run events
    r.lanes.workerError = none → (∀ lane, (r.lanes.lane lane).stopping = true) →
      (∀ lane services, (r.lanes.advance lane services false).total Lane.rank <
        r.lanes.total Lane.rank ∨
        r.lanes.advance lane services false = r.lanes) ∧
      (∀ lane x completion, r.lanes.tryPop lane false = (x, some completion) →
        x.total Lane.rank < r.lanes.total Lane.rank) ∧
      ((∀ lane services, r.lanes.advance lane services false = r.lanes) →
        (∀ lane, (r.lanes.tryPop lane false).2 = none) → r.lanes.liveThreads = 0 ∧
          ∀ lane, (r.executed lane).map Prod.fst = r.accepted lane ∧
          r.popped lane = (r.executed lane).map Prod.snd) := by
  intro r herror hstopping
  refine ⟨fun lane services => (r.lanes.advance_rank lane services).imp_right And.left,
    fun _ _ _ hpop => Lanes.tryPop_rank hpop, fun hstuck hnone => ?_⟩
  have hempty : ∀ lane, (r.lanes.lane lane).completionCount = 0 := by
    intro lane
    have hpop := hnone lane
    unfold Lanes.tryPop Lane.tryPop at hpop
    simp only [Bool.false_eq_true, if_false] at hpop
    split at hpop
    next hzero => exact hzero
    · cases hpop
  have hexited : ∀ lane, (r.lanes.lane lane).worker = .exited := by
    intro lane
    obtain hless | ⟨-, hended⟩ := r.lanes.advance_rank lane notThere
    · rw [hstuck lane notThere] at hless
      exact absurd hless (Nat.lt_irrefl _)
    · obtain hworker | hfull := hended (hstopping lane)
      · exact hworker
      · rw [hempty lane] at hfull
        cases hfull
  constructor
  · have hcounted : r.lanes.Counted := Traced.counted_run wakeCapacity events
    rw [hcounted]
    simp [Lanes.total, Lane.running, hexited]
  · intro lane
    have hholds : (r.lanes.lane lane).Holds _ _ _ :=
      ((Traced.Inv.run hcapacity events).good herror lane).holds
    have hleft := hholds.left (by rw [hexited lane]; rfl)
    exact hholds.all_done hleft.2 (hempty lane) (by rw [hexited lane]; rfl)

theorem lanes_drain_two :
    let r := (Traced.created 1).run
      (twoTasks ++ [.stop .tunerDev1 false, .stop .tunerDev2 false, .stop .card false])
    r.lanes.total Lane.rank = 13 ∧ ∀ lane services,
      (r.lanes.advance lane services false).total Lane.rank < r.lanes.total Lane.rank ∨
        r.lanes.advance lane services false = r.lanes :=
  ⟨by decide +kernel,
    (lanes_drain (by decide) _ (by decide +kernel) (by rintro ⟨⟩ <;> decide +kernel)).1⟩

end Px4.Control
