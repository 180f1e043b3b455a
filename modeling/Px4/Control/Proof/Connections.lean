import Px4.Control.Proof.Table

/-!
# The connections of the control server

Every function of the server keeps what holds of the connections (`Table.Holds`), apart from the
client that it is about to answer.

* `sendEncoded_keeps`, `submit_leads`, `onFrame_keeps`: what is done with the frames of a client.
* `handleCompletion_keeps`, `removeClient_keeps`, `acceptClient_keeps`, ...: each function keeps it.
* `server_connections`: it holds after every run.
-/

namespace Px4.Control

open Ipc Lib ConnectionStateMachine

namespace Serve

variable {I : Table → Prop} {α β : Type} {skip : Option UInt64} {id : UInt64} {kind : MessageKind}

/-- What is known of a client that was looked up. -/
theorem client?_spec {s : Server} {c : Client} (h : (client? id s).1 = some c) :
    c ∈ s.table.clients ∧ c.id = id :=
  ⟨List.mem_of_find?_eq_some h, by simpa using List.find?_some h⟩

/-! ## Messages -/

/-- A message of this kind to a client keeps a property of the connections. -/
def Sends (I : Table → Prop) (id : UInt64) (kind : MessageKind) : Prop :=
  ∀ t : Table, ∀ client ∈ t.clients, client.id = id → ∀ frame :
    FrameView, frame.header.kind = kind → I t →
    I (t.change id fun c => { c with state := (client.state.processOutbound frame).1 })

/-- While a client is about to be answered, it may be sent anything. -/
theorem sends_skip : Sends (Table.Holds (some id)) id kind := by
  intro t client hclient hid frame hkind h
  refine h.change (fun c hc hid => ⟨hid, ?_, fun hne => (hne rfl).elim⟩) fun j hj hne => hne
  exact (process_role ..).trans (h.roles client hclient)

/-- A client that waits for nothing may be sent anything. -/
theorem sends_answerable : Sends (Table.Answerable id) id kind :=
  fun t client hclient hid frame hkind h =>
  ⟨sends_skip t client hclient hid frame hkind h.holds, .change fun c hc hid => h.free c hc hid⟩

/-- Any client may be sent an event. -/
theorem sends_event : Sends (Table.Holds none) id .event := by
  intro t client hclient hid frame hkind h
  refine h.change (fun c hc hid' => ?_) fun j hj hne => hne
  obtain rfl := h.unique hc hclient (hid'.trans hid.symm)
  have hwaits := (h.waits c hc (Option.some_ne_none _)).event hkind
  exact ⟨hid', hwaits.role, fun _ => hwaits⟩

/-- **A message.** -/
theorem sendEncoded_keeps (h : Sends I id kind) (type : MessageType) (requestId : UInt32)
    (payload : List UInt8) :
    Keeps (fun s : Server => I s.table) (sendEncoded id type kind requestId payload) := by
  refine ⟨fun s hs => ?_⟩
  unfold sendEncoded
  rcases hframed : framed type kind requestId payload
    (kFrameHeaderSize + kMaxControlPayload) with e | ⟨frame, bytes⟩
  · exact hs
  rcases hclient : (client? id s).1 with _ | client
  · rw [bind_apply, hclient]
    exact hs
  · obtain ⟨hmem, hid⟩ := client?_spec hclient
    rw [bind_apply, hclient]
    dsimp only
    rw [bind_apply]
    refine (Aside.keeps ?_ I).run _ (h s.table client hmem hid frame (framed_kind hframed) hs)
    unfold writeFrame
    repeat' split
    all_goals first | exact ask_aside _ | simp

/-- **A message**, of a payload that can be encoded. -/
theorem sendPayload_keeps (h : Sends I id kind) (type : MessageType) (requestId : UInt32)
    (encode : Output → Result (List UInt8)) :
    Keeps (fun s : Server => I s.table) (sendPayload id type kind requestId encode) := by
  unfold sendPayload
  split
  · exact .pure _
  · exact sendEncoded_keeps h type requestId _

theorem sendErrorResponse_keeps (h : Sends I id .errorResponse) (type : MessageType)
    (requestId : UInt32) (e : Error) :
    Keeps (fun s : Server => I s.table) (sendErrorResponse id type requestId e) :=
  Leads.get.bind fun _ => sendPayload_keeps h type requestId _

theorem removeUnlessSent_keeps {send : Serve (Result Unit)}
    (h : Keeps (fun s : Server => I s.table) send) :
    Keeps (fun s : Server => I s.table) (removeUnlessSent id send) := by
  refine h.bind fun sent => ?_
  split
  · exact .pure _
  · exact ((scheduleRemove_aside id).keeps I).bind fun _ => .pure _

theorem sendError_keeps (h : Sends I id .errorResponse) (type : MessageType)
    (requestId : UInt32) (e : Error) :
    Keeps (fun s : Server => I s.table) (sendError id type requestId e) :=
  removeUnlessSent_keeps (sendErrorResponse_keeps h type requestId e)

theorem sendSuccess_keeps (h : Sends I id .response) (request : FrameView)
    (encode : Output → Result (List UInt8)) :
    Keeps (fun s : Server => I s.table) (sendSuccess id request encode) :=
  removeUnlessSent_keeps (sendPayload_keeps h _ _ encode)

theorem flushEvent_keeps (event : DeviceEventPayload) (id : UInt64) :
    Keeps (Server.Connected none) (flushEvent event id) := by
  refine ((client?_aside id).keeps (Table.Holds none)).bind fun client => ?_
  split
  · exact .pure _
  · split
    · exact (removeUnlessSent_keeps (sendPayload_keeps sends_event ..)).bind fun _ => .pure _
    · exact .pure _

/-- **Events** may go to any client. -/
theorem flushEvents_keeps : Keeps (Server.Connected none) flushEvents :=
  Leads.get.bind fun _ =>
    (Leads.forM (fun event => .forM (flushEvent_keeps event) _) _).bind fun _ =>
      .modify fun _ h => h

/-! ## Requests -/

theorem modifyClient_leads {J : Table → Prop} {f : Client → Client}
    (h : ∀ t, I t → J (t.change id f)) :
    Leads (fun s : Server => I s.table) (fun s => J s.table) (modifyClient id f) :=
  ⟨fun _ hs => h _ hs⟩

/-- A client that is answered. -/
theorem answered_leads {x : Serve α} (h : Keeps (fun s : Server => s.table.Answerable id) x) :
    Leads (fun s : Server => s.table.Answerable id) (Server.Connected none) x :=
  h.after fun _ hs => hs.connected

/-- **A request that goes to a lane** is still to be answered. -/
theorem submit_leads (request : FrameView) (task : ControlWorkerTask) :
    Leads (fun s : Server => s.table.Ready id) (Server.Connected none)
      (submit id request task) := by
  unfold submit
  dsimp only
  split
  · exact (answered_leads (sendError_keeps sends_answerable ..)).before fun _ h => h.answerable
  refine .bind (J := fun s : Server => s.table.Ready id) (.modify fun s h => ?_) fun _ => ?_
  · have hsame : Server.table { s with
        replaced := s.replaced || s.clients.any fun c =>
          c.id == id && c.outstanding.isSome } = s.table :=
      congrArg (fun replaced => { s.table with replaced }) h.not_replaces
    rwa [hsame]
  refine .bind (J := Server.Connected none) (modifyClient_leads (J := Table.Holds none) fun t h =>
    ?_) fun _ => ?_
  · have hroles := h.answerable.holds.roles
    exact h.answerable.connected.change
      (fun c hc hid => ⟨hid, hroles c hc, fun _ =>
        ⟨hroles c hc, fun _ => .inl (h.accepted c hc hid)⟩⟩)
      fun j hj hne => hne
  refine .bind ((laneSubmit_aside _ _).keeps (Table.Holds none)) fun result => ?_
  split
  · exact .pure _
  · refine .bind (J := fun s : Server => s.table.Answerable id)
      (modifyClient_leads (J := Table.Answerable id) fun t h => ?_)
      fun _ => answered_leads (sendError_keeps sends_answerable ..)
    refine Table.Holds.answerable ?_ (.change fun c hc hid => rfl)
    exact h.change (fun c hc hid => ⟨hid, h.roles c hc, fun _ => ⟨h.roles c hc, by simp⟩⟩)
      fun j hj hne => hne

theorem withPayload_leads {I J : Server → Prop} {f : α → Serve (Result Unit)} (decoded : Result α)
    (hf : ∀ value, Leads I J (f value)) (h : ∀ s, I s → J s) :
    Leads I J (withPayload decoded f) := by
  unfold withPayload
  split
  · exact Leads.after (.pure _) h
  · exact hf _

theorem withLease_leads (request : FrameView) (leaseId : UInt64) (f : UInt8 → ControlWorkerTask) :
    Leads (fun s : Server => s.table.Ready id) (Server.Connected none)
      (withLease id request leaseId f) := by
  refine .bind ((client?_aside id).keeps (Table.Ready id)) fun client => ?_
  split
  · exact Leads.after (.pure _) fun _ h => h.answerable.connected
  · split
    · exact (answered_leads (sendError_keeps sends_answerable ..)).before fun _ h => h.answerable
    · exact submit_leads request _

/-- **A request** is answered, or goes to a lane, or ends the connection. -/
theorem dispatch_leads (request : FrameView) :
    Leads (fun s : Server => s.table.Ready id) (Server.Connected none) (dispatch id request) := by
  have hready (s : Server) (h : s.table.Ready id) : s.Connected none := h.answerable.connected
  refine Leads.get.bind fun s => ?_
  dsimp only
  split
  case h_1 =>
    refine withPayload_leads _ (fun _ => ?_) hready
    exact (answered_leads (sendSuccess_keeps sends_answerable ..)).before fun _ h => h.answerable
  case h_4 =>
    refine withPayload_leads _ (fun _ => .bind ((client?_aside id).keeps (Table.Ready id))
      fun client => ?_) hready
    split
    · exact Leads.after (.pure _) hready
    · exact submit_leads request _
  case h_9 =>
    refine withPayload_leads _ (fun _ => ?_) hready
    split
    · exact Leads.after (.pure _) hready
    · exact submit_leads request _
  all_goals first
    | exact withPayload_leads _ (fun _ => submit_leads request _) hready
    | exact withPayload_leads _ (fun _ => withLease_leads request _ _) hready
    | exact Leads.after (.pure _) hready

/-- What is done with a frame that was accepted. -/
theorem onEvent_leads (frame : FrameView) (state : ConnectionStateMachine)
    (event : ConnectionEvent) :
    Leads (fun s : Server => s.table.Answerable id ∧
      (event = .requestAccepted → s.table.Accepted id))
      (Server.Connected none) (onEvent id frame state event) := by
  unfold onEvent
  split
  · split
    · exact Leads.after (.pure _) fun _ h => h.1.connected
    · exact (answered_leads (sendPayload_keeps sends_answerable ..)).before fun _ h => h.1
  · exact (answered_leads (sendErrorResponse_keeps sends_answerable ..)).before fun _ h => h.1
  · refine .bind ((dispatch_leads frame).before fun _ h => ⟨h.1, h.2 rfl⟩) fun result => ?_
    split
    · exact .pure _
    · exact flushEvents_keeps.bind fun _ => .pure _
  all_goals exact Leads.after (.pure _) fun _ h => h.1.connected

/-- **A frame of a client.** -/
theorem onFrame_keeps (id : UInt64) (frame : FrameView) :
    Keeps (Server.Connected none) (onFrame id frame) := by
  refine ⟨fun s hs => ?_⟩
  unfold onFrame
  rw [bind_apply]
  rcases hclient : (client? id s).1 with _ | client
  · exact hs
  obtain ⟨hmem, hid⟩ := client?_spec hclient
  have hwaits := hs.waits client hmem (Option.some_ne_none _)
  have hsame {c : Client} (hc : c ∈ s.table.clients) (hc' : c.id = id) : c = client :=
    hs.unique hc hmem (hc'.trans hid.symm)
  rcases hin : client.state.processInbound frame with ⟨state, e | result⟩
  · -- The connection has ended.
    obtain ⟨hrole, hphase⟩ := refused hin
    dsimp only
    rw [hin]
    exact hs.change (fun c hc hc' =>
      ⟨hc', hrole.trans hwaits.role, fun _ => ⟨hrole.trans hwaits.role, fun _ => .inr hphase⟩⟩)
      fun j hj hne => hne
  · -- No request was to be answered.
    obtain ⟨hrole, hclosed, hpoisoned, hidle, hrequest⟩ := server_receives hwaits.role hin
    have hfree : client.outstanding = none := by
      rw [← Option.not_isSome_iff_eq_none]
      intro hbusy
      obtain hactive | hphase | hphase := hwaits.busy hbusy
      · exact hidle hactive
      · exact hclosed hphase
      · exact hpoisoned hphase
    dsimp only
    rw [hin, bind_apply]
    refine (onEvent_leads frame state result.event).run _
      ⟨Table.Holds.answerable ?_ ?_, fun hevent => ?_⟩
    · refine hs.change (fun c hc hc' => ⟨hc', hrole, fun _ => ⟨hrole, fun hbusy => ?_⟩⟩)
        fun j hj hne => hne
      rw [hsame hc hc', hfree] at hbusy
      cases hbusy
    · change (s.table.change id _).Free id
      refine .change fun c hc hc' => ?_
      rw [hsame hc hc']
      exact hfree
    · intro c' hc' hid'
      obtain ⟨c, hc, rfl⟩ := List.mem_map.1 hc'
      split at hid'
      next hcid =>
        rw [if_pos hcid]
        exact hrequest hevent
      next hcid => exact (hcid hid').elim

theorem onFrames_keeps {I : Server → Prop} {handle : β → Serve (Result Unit)}
    (h : ∀ b, Keeps I (handle b)) (frames : List β)
    (last : Result Unit) : Keeps I (onFrames handle frames last) := by
  induction frames with
  | nil => exact .pure _
  | cons frame frames ih =>
    refine (h frame).bind fun result => ?_
    split
    · exact .pure _
    · exact ih

theorem readReady_keeps (id : UInt64) : Keeps (Server.Connected none) (readReady id) :=
  ((ask_aside _).keeps (Table.Holds none)).bind fun _ => onFrames_keeps (onFrame_keeps id) ..

/-! ## Completions -/

/-- A change of a client that leaves its id, its state and what it waits for. -/
theorem modifyClient_keeps {f : Client → Client}
    (hf : ∀ c, (f c).id = c.id ∧ (f c).state = c.state ∧ (f c).outstanding = c.outstanding) :
    Keeps (fun s : Server => s.table.Holds skip) (modifyClient id f) := by
  refine modifyClient_leads (I := Table.Holds skip) (J := Table.Holds skip) fun t h => ?_
  refine h.change (fun c hc hc' => ?_) fun j hj hne => hne
  obtain ⟨hid, hstate, houtstanding⟩ := hf c
  refine ⟨hid.trans hc', hstate ▸ h.roles c hc, fun hne => ⟨hstate ▸ h.roles c hc, ?_⟩⟩
  rw [hstate, houtstanding]
  exact (h.waits c hc (hc' ▸ hne)).busy

theorem forget_keeps (outstanding : Outstanding)
    (completion : ControlWorkerCompletion) (e : Error) :
    Keeps (fun s : Server => s.table.Holds skip) (forget id outstanding completion e) := by
  unfold forget
  split
  · exact modifyClient_keeps fun _ => ⟨rfl, rfl, rfl⟩
  · split
    · exact modifyClient_keeps fun _ => ⟨rfl, rfl, rfl⟩
    · exact .pure _
  · exact .pure _

/-- A lease that was added. -/
theorem addLease_spec {c c' : Client} {receiver : UInt8} {leaseId : UInt64}
    (h : c.addLease receiver leaseId = some c') : c'.id = c.id ∧ c'.state = c.state := by
  unfold Client.addLease at h
  split at h
  · cases h
  split at h
  · cases h
  obtain ⟨leases, -, rfl⟩ := Option.map_eq_some_iff.1 h
  exact ⟨rfl, rfl⟩

theorem sendEmpty_keeps (type : MessageType) (requestId : UInt32) :
    Keeps (fun s : Server => s.table.Holds (some id)) (sendEmpty id type requestId) :=
  sendEncoded_keeps sends_skip type requestId []

/-- **The result** of a request, to a client that waits for it. -/
theorem sendResult_keeps (outstanding : Outstanding) (completion : ControlWorkerCompletion) :
    Keeps (fun s : Server => s.table.Holds (some id)) (sendResult id outstanding completion) := by
  have hobserve {x : Serve Unit} (h : Aside x) :
      Keeps (fun s : Server => s.table.Holds (some id)) x := h.keeps _
  have hpayload (type : MessageType) (requestId : UInt32) (encode : Output → Result (List UInt8)) :
      Keeps (fun s : Server => s.table.Holds (some id))
        (sendPayload id type .response requestId encode) :=
    sendPayload_keeps sends_skip type requestId encode
  unfold sendResult
  dsimp only
  split
  case h_1 =>
    refine ⟨fun s hs => ?_⟩
    rw [bind_apply]
    rcases hadd : (client? id s).1.bind
      (·.addLease completion.receiver completion.tunerAcquire.leaseId) with _ | client
    · exact (Leads.bind (sendError_keeps sends_skip ..) fun sent =>
        (hobserve (giveBack_aside ..)).bind fun _ => .pure sent).run s hs
    · obtain ⟨c, hfind, hlease⟩ := Option.bind_eq_some_iff.1 hadd
      obtain ⟨hmem, hcid⟩ := client?_spec hfind
      obtain ⟨hid, hstate⟩ := addLease_spec hlease
      dsimp only
      rw [bind_apply]
      refine (hpayload ..).run _
        (hs.change (fun d hd hd' => ⟨hid.trans hcid, ?_, fun hne => (hne rfl).elim⟩)
        fun j hj hne => hne)
      rw [hstate]
      exact hs.roles c hmem
  case h_5 =>
    split
    · exact sendError_keeps sends_skip ..
    · exact hpayload ..
  case h_9 =>
    exact (hobserve (observeCardPresence_aside _)).bind fun _ =>
      (hobserve (observeStatus_aside _)).bind fun _ => Leads.get.bind fun _ => hpayload ..
  all_goals first
    | exact hpayload ..
    | exact sendEmpty_keeps ..
    | exact .pure _
    | exact (hobserve (observeCardPresence_aside _)).bind fun _ => hpayload ..
    | exact Leads.bind (modifyClient_keeps fun _ => by exact ⟨rfl, rfl, rfl⟩) fun _ =>
      sendEmpty_keeps ..
    | exact Leads.bind (modifyClient_keeps fun _ => by exact ⟨rfl, rfl, rfl⟩) fun _ => hpayload ..

/-- A function that leaves the connections as they are. -/
theorem Aside.connected {x : Serve α} (h : Aside x) : Keeps (Server.Connected skip) x :=
  h.keeps (Table.Holds skip)

/-- **A completion** is answered, and the client waits for nothing. -/
theorem sendCompletion_keeps (outstanding : Outstanding) (completion : ControlWorkerCompletion) :
    Keeps (Server.Connected none) (sendCompletion id outstanding completion) := by
  have hend : Leads (fun s : Server => s.table.Holds (some id)) (Server.Connected none)
      (modifyClient id fun c => { c with outstanding := none }) := by
    refine modifyClient_leads (J := Table.Holds none) fun t h => ?_
    exact h.change (fun c hc hid => ⟨hid, h.roles c hc, fun _ => ⟨h.roles c hc, by simp⟩⟩)
      fun j hj hne => by simpa using hj
  refine Leads.before (J := fun s : Server => s.table.Holds (some id)) ?_ fun _ h => h.weaken
  unfold sendCompletion
  dsimp only
  split
  · refine (forget_keeps ..).bind fun _ => (sendError_keeps sends_skip ..).bind fun sent =>
      hend.bind fun _ => ?_
    split
    · exact flushEvents_keeps
    · exact (scheduleRemove_aside id).connected.bind fun _ => flushEvents_keeps
  · refine (sendResult_keeps ..).bind fun sent => hend.bind fun _ => ?_
    split
    · exact flushEvents_keeps
    · exact (scheduleRemove_aside id).connected.bind fun _ => flushEvents_keeps

/-- **A completion of a request** of a client that is there. -/
theorem handleClientCompletion_keeps (client : Client) (completion : ControlWorkerCompletion) :
    Keeps (Server.Connected none) (handleClientCompletion client completion) := by
  unfold handleClientCompletion
  split
  · exact .pure _
  refine (observeStatus_aside _).connected.bind fun _ => (sendCompletion_keeps ..).bind fun _ => ?_
  split
  · exact (notifyStreamDetached_aside ..).connected
  · exact (notifyStreamDetachedByIdentity_aside ..).connected
  · exact (notifyStreamDetachedByIdentity_aside ..).connected
  · exact .pure _

/-- Only completions of requests of clients matter to the connections. -/
theorem handleCompletion_of {completion : ControlWorkerCompletion}
    (h : Keeps (fun s : Server => I s.table) (handleRequestCompletion completion)) :
    Keeps (fun s : Server => I s.table) (handleCompletion completion) := by
  unfold handleCompletion
  split
  · exact (handleBackgroundCompletion_aside _).keeps I
  split
  · exact (handleStreamCompletion_aside _).keeps I
  split
  · exact (handleCleanup_aside _).keeps I
  · exact h

/-- **A completion.** -/
theorem handleCompletion_keeps (completion : ControlWorkerCompletion) :
    Keeps (Server.Connected none) (handleCompletion completion) := by
  refine handleCompletion_of (I := Table.Holds none)
    ((retired?_aside _).connected.bind fun retired => ?_)
  split
  · exact (handleOrphanCompletion_aside ..).connected.bind fun _ =>
      retryRetiredCleanup_aside.connected.bind fun _ => (observeStatus_aside _).connected
  · refine (client?_aside _).connected.bind fun client => ?_
    split
    · exact handleClientCompletion_keeps ..
    · split
      · exact (recordError_aside _).connected
      · exact .pure _

theorem popAll_keeps
    (h : ∀ completion, Keeps (fun s : Server => I s.table) (handleCompletion completion))
    (lane : ControlWorkerLane) (fuel : Nat) :
    Keeps (fun s : Server => I s.table) (popAll lane fuel) := by
  induction fuel with
  | zero => exact .pure _
  | succ fuel ih =>
    refine ((laneTryPop_aside lane).keeps I).bind fun completion => ?_
    split
    · exact .pure _
    · exact (h _).bind fun _ => ih

/-- **All completions** keep what one keeps. -/
theorem processCompletions_keeps
    (h : ∀ completion, Keeps (fun s : Server => I s.table) (handleCompletion completion))
    (fuel : Nat) :
    Keeps (fun s : Server => I s.table) (processCompletions fuel) :=
  ((drainWake_aside fuel).keeps I).bind fun _ =>
    .bind (.forM (fun lane => (popAll_keeps h lane fuel).bind fun _ => .pure _) _) fun _ =>
      (retryRetiredCleanup_aside.keeps I).bind fun _ => reapRetired_aside.keeps I

theorem processCompletions_connected (fuel : Nat) :
    Keeps (Server.Connected none) (processCompletions fuel) :=
  processCompletions_keeps (I := Table.Holds none) handleCompletion_keeps fuel

/-! ## Connections that come and go -/

/-- **A client that goes.** -/
theorem removeClient_table (id : UInt64) (s : Server) :
    (removeClient id s).2.table = s.table.removeClient id := by
  have hgone (s : Server) : ((do
      modify fun s => { s with clients := s.clients.eraseP (·.id == id) }
      retryRetiredCleanup : Serve Unit) s).2.table = s.table.removeClient id := by
    rw [bind_apply, retryRetiredCleanup_aside.same]
    rfl
  unfold removeClient
  rw [get_bind]
  rcases hfind : s.clients.find? (·.id == id) with _ | client
  · have hnot : s.clients.eraseP (·.id == id) = s.clients :=
      List.eraseP_of_forall_not (by simpa using hfind)
    rw [hfind]
    exact (congrArg (fun clients => { s.table with clients }) hnot).symm
  · rw [hfind]
    dsimp only
    generalize Slots.insert _ s.retiredClients = inserted
    cases inserted with
    | none =>
      dsimp only
      rw [bind_apply]
      exact (hgone _).trans (congrArg (Table.removeClient id)
        ((recordError_aside .internal).same s))
    | some retiredClients =>
      dsimp only
      rw [set_bind]
      exact hgone _

theorem removeClient_keeps (id : UInt64) : Keeps (Server.Connected none) (removeClient id) := by
  refine ⟨fun s hs => ?_⟩
  change Table.Holds none _
  rw [removeClient_table]
  exact Table.Holds.removeClient hs

theorem removePendingClients_keeps : Keeps (Server.Connected none) removePendingClients :=
  Leads.get.bind fun _ => .bind (.forM removeClient_keeps _) fun _ => .modify fun _ h => h

/-- **A stream connection that goes.** -/
theorem removeStreamClient_table (id : UInt64) (s : Server) :
    (removeStreamClient id s).2.table = s.table.removeStream id := by
  have hmap (s : Server) : (s.streamClients.eraseP (·.id == id)).map (·.id) =
      s.table.streams.erase id := by
    rw [List.erase_eq_eraseP', Server.table, List.eraseP_map]
    rfl
  have hgone (s : Server) : ((do
      modify fun s => { s with streamClients := s.streamClients.eraseP (·.id == id) }
      retryStreamCleanup : Serve Unit) s).2.table = s.table.removeStream id := by
    rw [bind_apply, retryStreamCleanup_aside.same]
    exact Server.table_streams (hmap s)
  have hafter {x : Serve Unit} (h : Aside x) (s : Server) : ((do
      x
      modify fun s => { s with streamClients := s.streamClients.eraseP (·.id == id) }
      retryStreamCleanup : Serve Unit) s).2.table = s.table.removeStream id := by
    rw [bind_apply, hgone, h.same]
  unfold removeStreamClient
  rw [get_bind]
  rcases hfind : s.streamClients.find? (·.id == id) with _ | client
  · have hnot : s.streamClients.eraseP (·.id == id) = s.streamClients :=
      List.eraseP_of_forall_not (by simpa using hfind)
    rw [hfind, Table.removeStream, ← hmap, hnot]
    rfl
  · rw [hfind]
    dsimp only
    rw [ite_run, ite_run]
    split
    · rw [bind_apply, ite_run]
      split
      · rw [hafter (beginStreamCleanup_aside client), (releaseFinal_aside client.attachment).same]
      · rw [hgone, (releaseFinal_aside client.attachment).same]
    · split
      · exact hafter (beginStreamCleanup_aside _) s
      · exact hgone s

theorem removeStreamClient_keeps (id : UInt64) :
    Keeps (Server.Connected none) (removeStreamClient id) := by
  refine ⟨fun s hs => ?_⟩
  change Table.Holds none _
  rw [removeStreamClient_table]
  exact Table.Holds.removeStream hs

theorem removeStreamClients_keeps : Keeps (Server.Connected none) removeStreamClients :=
  Leads.get.bind fun _ => .bind (.forM removeStreamClient_keeps _) fun _ => .modify fun _ h => h

/-- The id of a new connection. -/
theorem nextId_spec (s : Server) : (nextId s).1 = s.table.nextId ∧
    (nextId s).2.table = s.table.advance := by
  unfold nextId Table.advance
  by_cases hmax : s.nextClientId = 0xffffffffffffffff
  · rw [get_bind, if_pos hmax, if_pos (show s.table.nextId = _ from hmax)]
    exact ⟨rfl, rfl⟩
  · rw [get_bind, if_neg hmax, if_neg (show ¬s.table.nextId = _ from hmax)]
    exact ⟨rfl, rfl⟩

/-- The id of a new connection is taken before there is memory for it. -/
theorem allocate_table (s : Server) : (ask .allocate (nextId s).2).2.table = s.table.advance :=
  ((ask_aside .allocate).same _).trans (nextId_spec s).2

/-- There is no memory for a new connection. -/
theorem notAllocated {s : Server} (hs : s.Connected none) (hex : s.clientIdsExhausted = false) :
    (recordError .internal (ask .allocate (nextId s).2).2).2.Connected none := by
  refine (recordError_aside _).connected.run _ ?_
  change Table.Holds none (ask .allocate (nextId s).2).2.table
  rw [allocate_table]
  exact Table.Holds.advance hs hex

/-- **A client that comes.** -/
theorem acceptClient_keeps : Keeps (Server.Connected none) acceptClient := by
  refine .get_bind fun s hs => ?_
  rw [bind_apply, ite_run]
  split
  · exact hs
  next hroom =>
    simp only [Bool.or_eq_true, Bool.not_eq_true', not_or, Bool.not_eq_true,
      Bool.not_eq_false, Bool.and_eq_true,
      decide_eq_true_eq] at hroom
    rw [show (retiredSlotAvailable s).2 = s from rfl, bind_apply, bind_apply, ite_run]
    split
    · change Table.Holds none
        { (ask .allocate (nextId s).2).2.table with
          clients := (ask .allocate (nextId s).2).2.table.clients ++ [{ id := (nextId s).1 }] }
      rw [allocate_table, (nextId_spec s).1, Table.advance_clients]
      exact Table.Holds.addClient hs hroom.2 hroom.1.1
    · exact notAllocated hs hroom.2

theorem addStream_table (s : Server) (c : StreamClient) :
    Server.table { s with streamClients := s.streamClients ++ [c] } =
      { s.table with streams := s.table.streams ++ [c.id] } := Server.table_streams List.map_append

/-- **A stream connection that comes.** -/
theorem acceptStream_keeps : Keeps (Server.Connected none) acceptStream := by
  refine .get_bind fun s hs => ?_
  rw [bind_apply, ite_run]
  split
  · exact hs
  next hroom =>
    simp only [Bool.or_eq_true, Bool.not_eq_true', not_or, Bool.not_eq_true,
      Bool.not_eq_false, decide_eq_true_eq,
      not_le] at hroom
    rw [show (streamRetiredCapacityAvailable s).2 = s from rfl, bind_apply, bind_apply, ite_run]
    split
    · change Table.Holds none (Server.table
        { (ask .allocate (nextId s).2).2 with
          streamClients := (ask .allocate (nextId s).2).2.streamClients ++
            [{ id := (nextId s).1 }] })
      rw [addStream_table, allocate_table, (nextId_spec s).1, Table.advance_streams]
      exact Table.Holds.addStream hs hroom.2 (by simpa [Server.table] using hroom.1.1)
    · exact notAllocated hs hroom.2

theorem acceptReady_keeps (fuel : Nat) : Keeps (Server.Connected none) (acceptReady fuel) := by
  induction fuel with
  | zero => exact .pure _
  | succ fuel ih =>
    refine (ask_aside _).connected.bind fun answer => ?_
    split
    · exact .pure _
    · exact acceptClient_keeps.bind fun _ => ih

theorem acceptStreamReady_keeps (fuel : Nat) :
    Keeps (Server.Connected none) (acceptStreamReady fuel) := by
  induction fuel with
  | zero => exact .pure _
  | succ fuel ih =>
    refine (ask_aside _).connected.bind fun answer => ?_
    split
    · exact .pure _
    · exact acceptStream_keeps.bind fun _ => ih

/-! ## `poll_once` -/

theorem readClient_keeps (id : UInt64) : Keeps (Server.Connected none) (readClient id) :=
  (readReady_keeps id).bind fun _ => (client?_aside id).connected.bind fun _ => .pure _

theorem serveClient_keeps (polled : Polled) (index : Nat) :
    Keeps (Server.Connected none) (serveClient polled index) := by
  refine Leads.get.bind fun s => ?_
  dsimp only
  split
  · exact .pure _
  next client _ =>
    have hend (go : Bool) : Keeps (Server.Connected none) (if go = true then do
        modifyClient client.id fun c => { c with valid := false }
        scheduleRemove client.id
        else pure () : Serve Unit) := by
      split
      · exact Leads.bind (modifyClient_keeps fun _ => by exact ⟨rfl, rfl, rfl⟩) fun _ =>
          (scheduleRemove_aside _).connected
      · exact .pure _
    split
    · exact hend true
    · split
      · exact (readClient_keeps _).bind hend
      · exact hend false

/-- **`poll_once`**, after `poll`. -/
theorem serve_keeps (fuel controlCount streamCount : Nat) (polled : Polled) :
    Keeps (Server.Connected none) (serve fuel controlCount streamCount polled) := by
  have hstreams : Keeps (Server.Connected none)
      ((List.range streamCount).forM (serveStream polled)) :=
    .forM (fun index => (serveStream_aside polled index).connected) _
  unfold serve
  dsimp only
  repeat' first | with_reducible refine .seq ?_ fun _ => ?_ | split
  all_goals first
    | with_reducible exact processCompletions_connected fuel
    | with_reducible exact acceptReady_keeps fuel
    | with_reducible exact acceptStreamReady_keeps fuel
    | with_reducible exact .forM (serveClient_keeps polled) _
    | with_reducible exact hstreams
    | with_reducible exact removePendingClients_keeps
    | with_reducible exact removeStreamClients_keeps
    | with_reducible exact (ask_aside _).connected
    | with_reducible exact (schedulePresenceIfDue_aside _).connected
    | with_reducible exact flushEvents_keeps
    | with_reducible exact takeError_aside.connected
    | with_reducible exact .pure _

/-- **`poll_once`.** -/
theorem pollOnce_keeps (fuel timeout : Nat) :
    Keeps (Server.Connected none) (pollOnce fuel timeout) := by
  refine Leads.get.bind fun s => ?_
  split
  · exact .pure _
  refine (processCompletions_connected fuel).bind fun _ =>
    takeError_aside.connected.bind fun error => ?_
  split
  · exact .pure _
  refine (ask_aside _).connected.bind fun now =>
    (schedulePresenceIfDue_aside now).connected.bind fun _ =>
    Leads.get.bind fun s => (ask_aside _).connected.bind fun now =>
      (ask_aside _).connected.bind fun polled => ?_
  split
  · exact .pure _
  · exact .pure _
  · exact serve_keeps ..

end Serve

/-! ## Every run -/

open Serve

theorem create_connected (config : Config) (outside : Outside) (wakeCapacity now : Nat) :
    (Server.create config outside wakeCapacity now).Connected none where
  nodup := .nil
  old := fun _ _ h => by cases h
  clients := Nat.zero_le _
  streams := Nat.zero_le _
  roles := fun _ h => by cases h
  waits := fun _ h => by cases h
  running := rfl
  single := rfl

theorem run_connected {s : Server} (h : s.Connected none) (calls : List (Nat × Nat)) :
    (s.run calls).Connected none := by
  induction calls generalizing s with
  | nil => exact h
  | cons call calls ih => exact ih ((pollOnce_keeps call.1 call.2).run s h)

/-- A client that waits accepts nothing. -/
theorem Client.Waits.refuses {c : Client} (h : c.Waits) (hbusy : c.outstanding.isSome = true)
    (frame : FrameView) :
    ∃ e, (c.state.processInbound frame).2 = .error e := by
  rcases hin : c.state.processInbound frame with ⟨m, e | result⟩
  · exact ⟨e, rfl⟩
  · obtain ⟨-, hclosed, hpoisoned, hidle, -⟩ := server_receives h.role hin
    obtain hactive | hphase | hphase := h.busy hbusy
    · exact (hidle hactive).elim
    · exact (hclosed hphase).elim
    · exact (hpoisoned hphase).elim

/-- **The connections of the control server.** However the clients, the services and the threads of
the lanes behave, after every run of `poll_once` no two connections have the same id, clients and
stream connections are within their limits, a client that waits for a completion is not heard: every
frame of it is refused; and no request has ever taken the place of another one in `outstanding`,
also not within a call. -/
theorem server_connections (config : Config) (outside : Outside) (wakeCapacity now : Nat)
    (calls : List (Nat × Nat)) :
    let s := (Server.create config outside wakeCapacity now).run calls
    (s.clients.map (·.id) ++ s.streamClients.map (·.id)).Nodup ∧
      s.clients.length ≤ kMaxControlConnections ∧ s.streamClients.length ≤ kMaxStreamConnections ∧
      (∀ c ∈ s.clients, c.outstanding.isSome = true →
        ∀ frame, ∃ e, (c.state.processInbound frame).2 = .error e) ∧
      s.replaced = false := by
  intro s
  have h : s.Connected none := run_connected (create_connected ..) calls
  refine ⟨h.nodup, h.clients, ?_, fun c hc hbusy frame => ?_, h.single⟩
  · exact (List.length_map _).symm.trans_le h.streams
  · exact (h.waits c hc (Option.some_ne_none _)).refuses hbusy frame

end Px4.Control
