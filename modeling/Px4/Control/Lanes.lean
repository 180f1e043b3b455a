import Px4.Control.Worker
import Px4.Lib.Ring

/-!
# The lanes of the control workers (`control_workers.cpp`)

Three lanes, each with a queue of tasks, a thread that executes them, and a queue of completions;
and the pipe by which the threads wake the thread of the server. What is done under the mutex of a
lane is one step. `fails` says that a call of `pthread` or of the pipe fails, by which
`worker_error` is set.
-/

namespace Px4.Control

/-- Where a thread is in `run_loop`. -/
inductive Worker
  | waiting
  | executing (task : ControlWorkerTask)
  | pushing (completion : ControlWorkerCompletion)
  | signalling
  | finishing
  | leaving
  | exited
  deriving DecidableEq

/-- `Lane`, with its thread. -/
structure Lane where
  stopping : Bool := false
  tasks : Nat → ControlWorkerTask := fun _ => {}
  taskHead : Nat := 0
  taskCount : Nat := 0
  completions : Nat → ControlWorkerCompletion := fun _ => {}
  completionHead : Nat := 0
  completionCount : Nat := 0
  activeTasks : Nat := 0
  worker : Worker := .waiting

/-- `ControlWorkerLanes`. `wake` is the number of bytes in the pipe, which takes up to
`wakeCapacity`. -/
structure Lanes where
  lane : ControlWorkerLane → Lane := fun _ => {}
  wake : Nat := 0
  wakeCapacity : Nat := 65536
  liveThreads : Nat := 3
  workerError : Option Error := none

namespace Lane

/-- `pop_task`, without the wait. -/
def popTask (s : Lane) : Lane :=
  if s.taskCount = 0 then
    if s.stopping then { s with worker := .leaving } else s
  else
    { s with
      taskHead := (s.taskHead + 1) % kControlWorkerQueueCapacity
      taskCount := s.taskCount - 1
      activeTasks := s.activeTasks + 1
      worker := .executing (s.tasks s.taskHead) }

/-- `push_completion`, without the wait. -/
def pushCompletion (s : Lane) (completion : ControlWorkerCompletion) : Lane :=
  if s.completionCount = kControlWorkerQueueCapacity then s
  else
    { s with
      completions := Function.update s.completions
        ((s.completionHead + s.completionCount) % kControlWorkerQueueCapacity) completion
      completionCount := s.completionCount + 1
      worker := .signalling }

/-- The call of `pthread` in `submit` that fails. -/
inductive SubmitFault
  | none | lock | signal
  deriving DecidableEq, Repr

/-- `submit`. -/
def submit (s : Lane) (task : ControlWorkerTask) (fault : SubmitFault) : Lane × Result Unit :=
  if fault = .lock then (s, .error .internal)
  else if s.stopping then (s, .error .notReady)
  else if s.taskCount = kControlWorkerQueueCapacity then (s, .error .busy)
  else
    let s := { s with
      tasks := Function.update s.tasks ((s.taskHead + s.taskCount) %
        kControlWorkerQueueCapacity) task }
    if fault = .signal then (s, .error .internal)
      else ({ s with taskCount := s.taskCount + 1 }, .ok ())

/-- `try_pop`. -/
def tryPop (s : Lane) : Lane × Option ControlWorkerCompletion :=
  if s.completionCount = 0 then (s, none)
  else
    ({ s with
      completionHead := (s.completionHead + 1) % kControlWorkerQueueCapacity
      completionCount := s.completionCount - 1 }, some (s.completions s.completionHead))

/-- `stop`. -/
def stop (s : Lane) : Lane := { s with stopping := true }

/-- `idle`. -/
def idle (s : Lane) : Bool := s.taskCount == 0 && s.completionCount == 0 && s.activeTasks == 0

end Lane

namespace Lanes

/-- The lane is `s` now. -/
def set (x : Lanes) (lane : ControlWorkerLane) (s : Lane) : Lanes :=
  { x with lane := Function.update x.lane lane s }

/-- `worker_error.store(Error::INTERNAL)`. -/
def fail (x : Lanes) : Lanes := { x with workerError := some .internal }

/-- `wake.signal`. -/
def signal (x : Lanes) (fails : Bool) : Lanes :=
  if fails then x.fail else { x with wake :=
    if x.wake < x.wakeCapacity then x.wake + 1 else x.wake }

/-- `submit`. -/
def submit (x : Lanes) (lane : ControlWorkerLane) (task : ControlWorkerTask)
    (fault : Lane.SubmitFault) :
    Lanes × Result Unit :=
  if !operationLaneValid lane task then (x, .error .invalidArgument)
  else (x.set lane ((x.lane lane).submit task fault).1, ((x.lane lane).submit task fault).2)

/-- `try_pop`. -/
def tryPop (x : Lanes) (lane : ControlWorkerLane) (fails : Bool) :
    Lanes × Option ControlWorkerCompletion :=
  if fails then (x.fail, none) else (x.set lane (x.lane lane).tryPop.1, (x.lane lane).tryPop.2)

/-- `request_stop`, of one lane. -/
def stop (x : Lanes) (lane : ControlWorkerLane) (fails : Bool) : Lanes :=
  if fails then x.fail else x.set lane (x.lane lane).stop

/-- One `read` of the loop of `drain_wake`. -/
def drain (x : Lanes) : Lanes := { x with wake := x.wake - 64 }

/-- `idle`. -/
def idle (x : Lanes) : Bool :=
  (x.lane .tunerDev1).idle && (x.lane .tunerDev2).idle && (x.lane .card).idle

/-- A step of the thread of a lane. -/
def advance (x : Lanes) (lane : ControlWorkerLane) (services : Services) (fails : Bool) : Lanes :=
  let s := x.lane lane
  match s.worker with
  | .waiting => if fails then (x.set lane { s with worker := .leaving }).fail
    else x.set lane s.popTask
  | .executing task => x.set lane { s with worker := .pushing (execute services task) }
  | .pushing completion =>
    if fails then (x.set lane { s with worker := .finishing }).fail
      else x.set lane (s.pushCompletion completion)
  | .signalling => (x.set lane { s with worker := .finishing }).signal fails
  | .finishing => x.set lane { s with activeTasks := s.activeTasks - 1, worker := .waiting }
  | .leaving => { x.set lane { s with worker := .exited } with liveThreads := x.liveThreads - 1 }
  | .exited => x

end Lanes

/-! ## Runs -/

/-- What may happen next: a call from outside, or a step of a thread. -/
inductive Event
  | submit (lane : ControlWorkerLane) (task : ControlWorkerTask) (fault : Lane.SubmitFault)
  | tryPop (lane : ControlWorkerLane) (fails : Bool)
  | stop (lane : ControlWorkerLane) (fails : Bool)
  | drain
  | advance (lane : ControlWorkerLane) (services : Services) (fails : Bool)

/-- The lanes, and what has happened to each of them: the tasks that `submit` has accepted, the
tasks executed with their completions, and the completions that `try_pop` has returned, oldest
first. `unchecked` are the lanes that `try_pop` has not yet found empty since the last `read` from
the pipe. -/
structure Traced where
  lanes : Lanes
  accepted : ControlWorkerLane → List ControlWorkerTask := fun _ => []
  executed : ControlWorkerLane → List (ControlWorkerTask × ControlWorkerCompletion) := fun _ => []
  popped : ControlWorkerLane → List ControlWorkerCompletion := fun _ => []
  unchecked : ControlWorkerLane → Bool := fun _ => false

namespace Traced

/-- The lists with one more entry at a lane. -/
def snoc {α : Type} (lists : ControlWorkerLane → List α) (lane : ControlWorkerLane) (value : α) :
    ControlWorkerLane → List α := Function.update lists lane (lists lane ++ [value])

def submit (r : Traced) (lane : ControlWorkerLane) (task : ControlWorkerTask)
    (fault : Lane.SubmitFault) : Traced :=
  match r.lanes.submit lane task fault with
  | (lanes, .ok ()) => { r with lanes, accepted := snoc r.accepted lane task }
  | (lanes, .error _) => { r with lanes }

def tryPop (r : Traced) (lane : ControlWorkerLane) (fails : Bool) : Traced :=
  match r.lanes.tryPop lane fails with
  | (lanes, some completion) => { r with lanes, popped := snoc r.popped lane completion }
  | (lanes, none) => { r with lanes, unchecked := Function.update r.unchecked lane false }

def advance (r : Traced) (lane : ControlWorkerLane) (services : Services) (fails : Bool) : Traced :=
  let lanes := r.lanes.advance lane services fails
  match (r.lanes.lane lane).worker with
  | .executing task =>
    { r with lanes, executed := snoc r.executed lane (task, execute services task) }
  | _ => { r with lanes }

/-- An event. -/
def step (r : Traced) : Event → Traced
  | .submit lane task fault => r.submit lane task fault
  | .tryPop lane fails => r.tryPop lane fails
  | .stop lane fails => { r with lanes := r.lanes.stop lane fails }
  | .drain => { r with lanes := r.lanes.drain, unchecked := fun _ => true }
  | .advance lane services fails => r.advance lane services fails

/-- A run of events. -/
def run (r : Traced) (events : List Event) : Traced := events.foldl step r

/-- After `create`. -/
def created (wakeCapacity : Nat) : Traced where
  lanes := { wakeCapacity }

end Traced

end Px4.Control
