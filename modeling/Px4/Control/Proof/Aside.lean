import Px4.Control.Server
import Px4.Lib.Keeps

/-!
# Functions that leave the connections as they are

`Table` is what the control server knows of its connections: the clients, the ids of the stream
connections, the ids for new ones, whether it is shut down, and whether a request has taken the
place of another one. Most functions of the server leave it as it is: `recordError_aside`,
`queueEncoded_aside`, and the like.
-/

namespace Px4.Control

open Ipc Lib
open Px4.Stream (TunerAttachment FinalSnapshot)

/-- The connections, the ids for new ones, whether there will be no more, and whether a request has
taken the place of another one. -/
structure Table where
  clients : List Client
  streams : List UInt64
  nextId : UInt64
  exhausted : Bool
  complete : Bool
  replaced : Bool

def Server.table (s : Server) : Table where
  clients := s.clients
  streams := s.streamClients.map (·.id)
  nextId := s.nextClientId
  exhausted := s.clientIdsExhausted
  complete := s.shutdownComplete
  replaced := s.replaced

/-- Stream connections with other ids. -/
theorem Server.table_streams {s : Server} {streamClients : List StreamClient} {ids : List UInt64}
    (h : streamClients.map (·.id) = ids) : Server.table { s with streamClients } =
    { s.table with streams := ids } := by
  subst h
  rfl

/-- The function leaves the connections as they are. -/
structure Serve.Aside {α : Type} (x : Serve α) : Prop where
  same : ∀ s, (x s).2.table = s.table

namespace Serve

variable {α β : Type} {x y : Serve α}

/-! ## Rules -/

/-- What holds of the connections still does. -/
theorem Aside.keeps (h : Aside x) (P : Table → Prop) : Keeps (fun s : Server => P s.table) x :=
  ⟨fun s hs => (congrArg P (h.same s)).mpr hs⟩

theorem Aside.bind {f : α → Serve β} (hx : Aside x) (hf : ∀ a, Aside (f a)) : Aside (x >>= f) :=
  ⟨fun s => ((hf _).same _).trans (hx.same s)⟩

theorem Aside.get_bind {f : Server → Serve β} (hf : ∀ s, (f s s).2.table = s.table) :
    Aside (MonadState.get >>= f) := ⟨hf⟩

@[simp] theorem Aside.pure (a : α) : Aside (Pure.pure a : Serve α) := ⟨fun _ => rfl⟩

@[simp] theorem Aside.get : Aside (MonadState.get : Serve Server) := ⟨fun _ => rfl⟩

@[simp] theorem aside_modify {f : Server → Server} (hf : ∀ s, (f s).table = s.table) :
    Aside (modify f : Serve PUnit) := ⟨hf⟩

theorem bind_apply (x : Serve α) (f : α → Serve β) (s : Server) :
    (x >>= f) s = f (x s).1 (x s).2 := rfl

theorem get_bind (f : Server → Serve β) (s : Server) : ((get : Serve Server) >>= f) s = f s s := rfl

theorem set_bind (s t : Server) (f : PUnit → Serve β) :
    ((set t : Serve PUnit) >>= f) s = f ⟨⟩ t := rfl

theorem ite_run {p : Prop} [Decidable p] (x y : Serve α) (s : Server) :
    (if p then x else y) s = if p then x s else y s := by
  split <;> rfl

theorem Aside.forM {f : β → Serve PUnit} (hf : ∀ b, Aside (f b)) (bs : List β) :
    Aside (bs.forM f) :=
  ⟨fun s => (Leads.forM (fun b => (hf b).keeps (· = s.table)) bs).run s rfl⟩

/-! ## The outside, and the lanes -/

@[simp] theorem ask_aside (q : Ask) : Aside (ask q) := ⟨fun _ => rfl⟩

@[simp] theorem client?_aside (id : UInt64) : Aside (client? id) := ⟨fun _ => rfl⟩

@[simp] theorem stream?_aside (id : UInt64) : Aside (stream? id) := ⟨fun _ => rfl⟩

@[simp] theorem retired?_aside (id : UInt64) : Aside (retired? id) := ⟨fun _ => rfl⟩

@[simp] theorem retiredStream?_aside (id : UInt64) : Aside (retiredStream? id) := ⟨fun _ => rfl⟩

theorem work_table (s : Server) (moves : List WorkerMove) :
    (moves.foldl work s).table = s.table := by
  induction moves generalizing s with
  | nil => rfl
  | cons move moves ih =>
    rw [List.foldl_cons, ih]
    unfold work
    dsimp only
    split <;> rfl

@[simp] theorem workers_aside : Aside workers :=
  (ask_aside _).bind fun moves => aside_modify (work_table · moves)

@[simp] theorem laneSubmit_aside (lane : ControlWorkerLane) (task : ControlWorkerTask) :
    Aside (laneSubmit lane task) :=
  workers_aside.bind fun _ => (ask_aside _).bind fun _ => .get_bind fun _ => rfl

@[simp] theorem laneTryPop_aside (lane : ControlWorkerLane) : Aside (laneTryPop lane) :=
  workers_aside.bind fun _ => (ask_aside _).bind fun _ => .get_bind fun _ => rfl

@[simp] theorem lanesIdle_aside : Aside lanesIdle :=
  workers_aside.bind fun _ => (ask_aside _).bind fun _ => .bind .get fun _ => .pure _

@[simp] theorem laneStop_aside (lane : ControlWorkerLane) : Aside (laneStop lane) :=
  workers_aside.bind fun _ => (ask_aside _).bind fun _ => aside_modify fun _ => rfl

@[simp] theorem drainWake_aside (fuel : Nat) : Aside (drainWake fuel) := by
  induction fuel with
  | zero => exact .pure _
  | succ fuel ih =>
    refine workers_aside.bind fun _ => (ask_aside _).bind fun fails => .get_bind fun s => ?_
    rw [ite_run]
    split
    · rfl
    · rw [set_bind]
      exact ih.same _

/-! ## Records -/

@[simp] theorem recordError_aside (e : Error) : Aside (recordError e) :=
  aside_modify fun _ => by split <;> rfl

@[simp] theorem scheduleRemove_aside (id : UInt64) : Aside (scheduleRemove id) :=
  aside_modify fun _ => by split <;> rfl

@[simp] theorem modifyRetired_aside (id : UInt64) (f : RetiredClient → RetiredClient) :
    Aside (modifyRetired id f) :=
  aside_modify fun _ => rfl

@[simp] theorem modifyRetiredStream_aside (id : UInt64) (f : RetiredStream → RetiredStream) :
    Aside (modifyRetiredStream id f) := aside_modify fun _ => rfl

/-- A stream connection keeps its id. -/
@[simp] theorem modifyStream_aside {f : StreamClient → StreamClient}
    (hf : ∀ c, (f c).id = c.id) (id : UInt64) :
    Aside (modifyStream id f) := by
  refine aside_modify fun s => ?_
  have hmap : (s.streamClients.map fun c => if c.id = id then f c else c).map (·.id) =
      s.streamClients.map (·.id) := by
    rw [List.map_map]
    refine List.map_congr_left fun c _ => ?_
    dsimp only [Function.comp]
    split
    · exact hf c
    · rfl
  exact Server.table_streams hmap

@[simp] theorem requestRemove_aside (id : UInt64) : Aside (requestRemove id) :=
  modifyStream_aside (fun _ => by rfl) id

@[simp] theorem recordUnlessNotFound_aside (error : Option Error) :
    Aside (recordUnlessNotFound error) := by
  unfold recordUnlessNotFound
  repeat' split
  all_goals simp

/-! ## Events -/

@[simp] theorem announce_aside (kind : DeviceEventKind) (targetType : EventTargetType)
    (targetId : UInt8) :
    Aside (announce kind targetType targetId) := aside_modify fun _ => rfl

theorem observeReceiver_aside (status : TunerStatus) (index : Nat) :
    Aside (observeReceiver status index) := by
  unfold observeReceiver
  refine .bind .get fun s => ?_
  dsimp only
  split
  · exact .pure _
  · exact .bind (aside_modify fun _ => rfl) fun _ => announce_aside ..

@[simp] theorem observeStatus_aside (status : Option TunerStatus) :
    Aside (observeStatus status) := by
  cases status with
  | none => exact .pure _
  | some status => exact .forM (observeReceiver_aside status) _

@[simp] theorem observeCardPresence_aside (present : Bool) :
    Aside (observeCardPresence present) := by
  unfold observeCardPresence
  refine .bind .get fun s => ?_
  split
  · exact aside_modify fun _ => rfl
  · split
    · exact .pure _
    · exact .bind (aside_modify fun _ => rfl) fun _ => announce_aside ..

@[simp] theorem observeCardChange_aside (change : CardPresenceChange) :
    Aside (observeCardChange change) := by
  unfold observeCardChange
  split <;> simp

/-! ## Stream connections -/

@[simp] theorem queueEncoded_aside (id : UInt64) (type : MessageType) (kind : MessageKind)
    (requestId : UInt32) (encode : Output → Result (List UInt8)) :
    Aside (queueEncoded id type kind requestId encode) := by
  unfold queueEncoded
  repeat' first | with_reducible refine .bind ?_ fun _ => ?_ | split
  all_goals simp

@[simp] theorem removeUnlessQueued_aside {queue : Serve (Result Unit)}
    (h : Aside queue) (id : UInt64) :
    Aside (removeUnlessQueued id queue) := by
  refine h.bind fun result => ?_
  split <;> simp

@[simp] theorem queueEmptyResponse_aside (id : UInt64) (requestId : UInt32) :
    Aside (queueEmptyResponse id requestId) :=
  queueEncoded_aside ..

@[simp] theorem queueError_aside (id : UInt64) (requestId : UInt32) (e : Error) :
    Aside (queueError id requestId e) :=
  .bind .get fun _ => (queueEncoded_aside ..).bind fun result =>
    .bind (modifyStream_aside (fun _ => by rfl) id) fun _ => .pure result

@[simp] theorem queueData_aside (id sequence dropCount : UInt64) (bytes : List UInt8) :
    Aside (queueData id sequence dropCount bytes) := queueEncoded_aside ..

@[simp] theorem queueEnd_aside (id : UInt64) (payload : StreamEndEventPayload) :
    Aside (queueEnd id payload) :=
  (queueEncoded_aside ..).bind fun result => .bind (modifyStream_aside (fun _ => by rfl) id)
    fun _ => .pure result

theorem sendLoop_aside (id : UInt64) (fuel budget : Nat) : Aside (sendLoop id fuel budget) := by
  induction fuel generalizing budget with
  | zero => exact .pure _
  | succ fuel ih =>
    unfold sendLoop
    repeat' first | with_reducible refine .bind ?_ fun _ => ?_ | split
    all_goals first | exact ask_aside _ | exact ih _ | simp

@[simp] theorem flush_aside (id : UInt64) (budget : Nat) : Aside (flush id budget) := by
  refine (sendLoop_aside ..).bind fun result => ?_
  split
  · exact .pure _
  · exact .pure _
  · refine .bind (modifyStream_aside (fun c => ?_) id) fun _ => .pure _
    split <;> rfl

/-! ## Attachments -/

@[simp] theorem queueCleanupTask_aside (task : ControlWorkerTask) :
    Aside (queueCleanupTask task) := by
  unfold queueCleanupTask
  repeat' first | with_reducible refine .bind ?_ fun _ => ?_ | split
  all_goals simp

@[simp] theorem refuseAttach_aside (id : UInt64) (requestId : UInt32) (e : Error) :
    Aside (refuseAttach id requestId e) :=
  .bind (modifyStream_aside (fun _ => by rfl) id) fun _ =>
    removeUnlessQueued_aside (queueError_aside ..) id

@[simp] theorem onStreamFrame_aside (id : UInt64) (frame : FrameView) :
    Aside (onStreamFrame id frame) := by
  unfold onStreamFrame
  repeat' first | with_reducible refine .bind ?_ fun _ => ?_ | split
  all_goals simp

@[simp] theorem onAttachFrame_aside (id : UInt64) (frame : FrameView) :
    Aside (onAttachFrame id frame) := by
  unfold onAttachFrame
  repeat' first | with_reducible refine .bind ?_ fun _ => ?_ | split
  all_goals simp

theorem onFrames_aside {handle : β → Serve (Result Unit)} (h : ∀ b, Aside (handle b))
    (frames : List β) (last : Result Unit) : Aside (onFrames handle frames last) := by
  induction frames with
  | nil => exact .pure _
  | cons frame frames ih =>
    refine (h frame).bind fun result => ?_
    split
    · exact .pure _
    · exact ih

@[simp] theorem streamReadReady_aside (id : UInt64) : Aside (streamReadReady id) :=
  (ask_aside _).bind fun _ => onFrames_aside (onAttachFrame_aside id) ..

@[simp] theorem beginStreamEnd_aside (id : UInt64) (snapshot : FinalSnapshot) :
    Aside (beginStreamEnd id snapshot) :=
  modifyStream_aside (fun _ => by split <;> rfl) id

@[simp] theorem notifyStreamDetached_aside (ownerClientId leaseId : Nat)
    (snapshot : FinalSnapshot) :
    Aside (notifyStreamDetached ownerClientId leaseId snapshot) := by
  refine .bind .get fun s => .forM (fun c => ?_) _
  split <;> simp

@[simp] theorem endWithSnapshot_aside (id : UInt64) (attachment : TunerAttachment) :
    Aside (endWithSnapshot id attachment) := by
  unfold endWithSnapshot
  repeat' first | with_reducible refine .bind ?_ fun _ => ?_ | split
  all_goals first | exact ask_aside _ | simp

@[simp] theorem notifyStreamDetachedByIdentity_aside (ownerClientId leaseId : Nat) :
    Aside (notifyStreamDetachedByIdentity ownerClientId leaseId) := by
  refine .bind .get fun s => .forM (fun c => ?_) _
  repeat' first | with_reducible refine .bind ?_ fun _ => ?_ | split
  all_goals simp

@[simp] theorem attachLive_aside (client : StreamClient) (completion : ControlWorkerCompletion) :
    Aside (attachLive client completion) := by
  unfold attachLive
  repeat' first | with_reducible refine .bind ?_ fun _ => ?_ | split
  all_goals first | exact ask_aside _ | simp

@[simp] theorem attachRetired_aside (retired : RetiredStream)
    (completion : ControlWorkerCompletion) :
    Aside (attachRetired retired completion) := by
  unfold attachRetired
  repeat' first | with_reducible refine .bind ?_ fun _ => ?_ | split
  all_goals first | exact aside_modify fun _ => rfl | simp

@[simp] theorem handleStreamCompletion_aside (completion : ControlWorkerCompletion) :
    Aside (handleStreamCompletion completion) := by
  unfold handleStreamCompletion
  repeat' first | with_reducible refine .bind ?_ fun _ => ?_ | split
  all_goals simp

@[simp] theorem releaseFinal_aside (attachment : Option TunerAttachment) :
    Aside (releaseFinal attachment) := by
  unfold releaseFinal
  repeat' first | with_reducible refine .bind ?_ fun _ => ?_ | split
  all_goals first | exact ask_aside _ | simp

@[simp] theorem handleStreamCleanupCompletion_aside (completion : ControlWorkerCompletion) :
    Aside (handleStreamCleanupCompletion completion) := by
  unfold handleStreamCleanupCompletion
  repeat' first | with_reducible refine .bind ?_ fun _ => ?_ | split
  all_goals first | exact aside_modify fun _ => rfl | simp

@[simp] theorem queueStreamCleanup_aside (id : UInt64) (attachment : TunerAttachment) :
    Aside (queueStreamCleanup id attachment) := by
  unfold queueStreamCleanup
  repeat' first | with_reducible refine .bind ?_ fun _ => ?_ | split
  all_goals simp

theorem retryRetiredStream_aside (slot : Nat) : Aside (retryRetiredStream slot) := by
  unfold retryRetiredStream
  repeat' first | with_reducible refine .bind ?_ fun _ => ?_ | split
  all_goals first | exact aside_modify fun _ => rfl | simp

theorem retryLiveStream_aside (client : StreamClient) : Aside (retryLiveStream client) := by
  unfold retryLiveStream
  repeat' split
  all_goals simp

@[simp] theorem retryStreamCleanup_aside : Aside retryStreamCleanup :=
  .bind (.forM retryRetiredStream_aside _) fun _ => .bind .get fun _ =>
    .forM retryLiveStream_aside _

@[simp] theorem revokeStream_aside (client : StreamClient) : Aside (revokeStream client) := by
  unfold revokeStream
  repeat' first | with_reducible refine .bind ?_ fun _ => ?_ | split
  all_goals first | exact ask_aside _ | simp

@[simp] theorem queueLiveStreamCleanup_aside (id : UInt64) : Aside (queueLiveStreamCleanup id) := by
  unfold queueLiveStreamCleanup
  repeat' first | with_reducible refine .bind ?_ fun _ => ?_ | split
  all_goals simp

theorem streamRetiredCapacityAvailable_aside : Aside streamRetiredCapacityAvailable :=
  ⟨fun _ => rfl⟩

@[simp] theorem beginStreamCleanup_aside (client : StreamClient) :
    Aside (beginStreamCleanup client) := by
  unfold beginStreamCleanup
  dsimp only
  split
  · exact .pure _
  refine (revokeStream_aside client).bind fun _ =>
    streamRetiredCapacityAvailable_aside.bind fun room => ?_
  split
  · exact recordError_aside _
  refine .get_bind fun s => ?_
  generalize Slots.insert _ s.retiredStreams = inserted
  cases inserted with
  | none => exact (recordError_aside _).same s
  | some retiredStreams =>
    dsimp only
    rw [set_bind]
    refine Aside.same ?_ _
    repeat' first | with_reducible refine .bind ?_ fun _ => ?_ | split
    all_goals simp

@[simp] theorem scheduleStreamRemove_aside (id : UInt64) : Aside (scheduleStreamRemove id) := by
  refine .get_bind fun s => ?_
  rw [ite_run, ite_run]
  split
  · rfl
  · split
    · rfl
    · exact (recordError_aside _).same s

/-! ## Clients that have gone -/

@[simp] theorem allRetiredCleanupDone_aside : Aside allRetiredCleanupDone := ⟨fun _ => rfl⟩

theorem retryRelease_aside (slot i : Nat) : Aside (retryRelease slot i) := by
  unfold retryRelease
  repeat' first | with_reducible refine .bind ?_ fun _ => ?_ | split
  all_goals first | exact aside_modify fun _ => rfl | simp

theorem retryFence_aside (slot : Nat) : Aside (retryFence slot) := by
  unfold retryFence
  repeat' first | with_reducible refine .bind ?_ fun _ => ?_ | split
  all_goals first | exact aside_modify fun _ => rfl | simp

@[simp] theorem retryRetiredCleanup_aside : Aside retryRetiredCleanup :=
  .bind (.forM (fun slot => .bind (.forM (retryRelease_aside slot) _) fun _ =>
    retryFence_aside slot) _)
    fun _ => retryStreamCleanup_aside

@[simp] theorem reapRetired_aside : Aside reapRetired := aside_modify fun _ => rfl

@[simp] theorem handleCleanupCompletion_aside (completion : ControlWorkerCompletion) :
    Aside (handleCleanupCompletion completion) := by
  unfold handleCleanupCompletion
  repeat' first | with_reducible refine .bind ?_ fun _ => ?_ | split
  all_goals simp

@[simp] theorem addOrphanLease_aside (id : UInt64) (receiver : UInt8) (leaseId : UInt64) :
    Aside (addOrphanLease id receiver leaseId) := by
  unfold addOrphanLease
  repeat' first | with_reducible refine .bind ?_ fun _ => ?_ | split
  all_goals simp

@[simp] theorem handleOrphanCompletion_aside (completion : ControlWorkerCompletion) (id : UInt64) :
    Aside (handleOrphanCompletion completion id) := by
  unfold handleOrphanCompletion
  repeat' first | with_reducible refine .bind ?_ fun _ => ?_ | split
  all_goals simp

@[simp] theorem giveBack_aside (id : UInt64) (receiver : UInt8) (leaseId : UInt64) :
    Aside (giveBack id receiver leaseId) := by
  refine .get_bind fun s => ?_
  generalize Slots.insert _ s.retiredClients = inserted
  cases inserted with
  | none =>
    refine Aside.same ?_ s
    simp
  | some retiredClients =>
    dsimp only
    rw [set_bind]
    refine Aside.same ?_ _
    simp

@[simp] theorem handleBackgroundCompletion_aside (completion : ControlWorkerCompletion) :
    Aside (handleBackgroundCompletion completion) := by
  unfold handleBackgroundCompletion
  repeat' first | with_reducible refine .bind ?_ fun _ => ?_ | split
  all_goals first | exact ask_aside _ | exact aside_modify fun _ => rfl | simp

@[simp] theorem handleCleanup_aside (completion : ControlWorkerCompletion) :
    Aside (handleCleanup completion) := by
  unfold handleCleanup
  repeat' first | with_reducible refine .bind ?_ fun _ => ?_ | split
  all_goals simp

/-! ## `poll_once` -/

@[simp] theorem schedulePresenceIfDue_aside (now : Nat) : Aside (schedulePresenceIfDue now) := by
  unfold schedulePresenceIfDue
  repeat' first | with_reducible refine .bind ?_ fun _ => ?_ | split
  all_goals first | exact aside_modify fun _ => rfl | simp

@[simp] theorem takeError_aside : Aside takeError := by
  refine .get_bind fun s => ?_
  cases s.cleanupError <;> rfl

@[simp] theorem writeStream_aside (id : UInt64) : Aside (writeStream id) := by
  unfold writeStream
  repeat' first | with_reducible refine .bind ?_ fun _ => ?_ | split
  all_goals simp

@[simp] theorem readStream_aside (id : UInt64) (pollIn : Bool) : Aside (readStream id pollIn) := by
  unfold readStream
  repeat' first | with_reducible refine .bind ?_ fun _ => ?_ | split
  all_goals simp

@[simp] theorem queueStream_aside (id : UInt64) : Aside (queueStream id) := by
  unfold queueStream
  repeat' first | with_reducible refine .bind ?_ fun _ => ?_ | split
  all_goals first | exact ask_aside _ | simp

@[simp] theorem queueStreamEnd_aside (id : UInt64) : Aside (queueStreamEnd id) := by
  unfold queueStreamEnd
  repeat' first | with_reducible refine .bind ?_ fun _ => ?_ | split
  all_goals simp

theorem serveStream_aside (polled : Polled) (index : Nat) : Aside (serveStream polled index) := by
  unfold serveStream
  dsimp only
  repeat' first | with_reducible refine .bind ?_ fun _ => ?_ | split
  all_goals simp

end Serve

end Px4.Control
