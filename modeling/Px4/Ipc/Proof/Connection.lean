import Px4.Ipc.Pair

/-!
# What a connection state machine does with a frame

* `process_ok`, `process_error`: an accepted frame keeps the role and does not poison; a rejected
  one leaves a closed or poisoned machine as it is and poisons any other.
* `controlClient_sends`, `controlServer_sends`, `streamClient_sends`, `streamServer_sends`: what a
  role can send, and the state after it.
* `controlServer_greeted` and the like: what a role accepts.
-/

namespace Px4.Ipc

open ConnectionStateMachine

variable {m m' : ConnectionStateMachine} {frame : FrameView} {outbound : Bool}
  {result : ConnectionResult}

namespace ConnectionStateMachine

@[simp] theorem enter_phase (phase : ConnectionPhase) : (m.enter phase).phase = phase := rfl

/-! ## Verdicts -/

/-- A frame is accepted, in a state that is not poisoned, or it is a violation. -/
inductive Verdict (m : ConnectionStateMachine) :
    ConnectionStateMachine × Result ConnectionResult → Prop
  | accepted {m' : ConnectionStateMachine} (event : ConnectionEvent) (type : MessageType)
      (hrole : m'.role = m.role) (hphase : m'.phase ≠ .poisoned) :
    Verdict m (m'.accepted event type)
  | violation : Verdict m m.violation

theorem processControlClient_verdict (hm : m.phase ≠ .poisoned) :
    Verdict m (m.processControlClient frame outbound) := by
  unfold processControlClient
  dsimp only
  split
  · split
    · exact .violation
    split
    · exact .violation
    · exact .accepted _ _ rfl nofun
  · split
    · exact .violation
    split
    · exact .accepted _ _ rfl nofun
    split
    · exact .violation
    split
    · exact .violation
    · exact .accepted _ _ rfl nofun
  · split
    · split
      · exact .violation
      split
      · exact .violation
      · exact .accepted _ _ rfl hm
    split
    · split
      · exact .violation
      · exact .accepted _ _ rfl hm
    split
    · exact .violation
    · exact .accepted _ _ rfl hm

theorem processControlServer_verdict (hm : m.phase ≠ .poisoned) :
    Verdict m (m.processControlServer frame outbound) := by
  unfold processControlServer
  dsimp only
  split
  · split
    · exact .violation
    split
    · exact .violation
    · exact .accepted _ _ rfl nofun
  · split
    · exact .violation
    split
    · split
      · exact .violation
      split
      · exact .violation
      split
      · exact .violation
      · exact .accepted _ _ rfl nofun
    split
    · exact .violation
    split
    · exact .violation
    split
    · exact .violation
    · exact .accepted _ _ rfl nofun
  · split
    · split
      · exact .violation
      split
      · exact .violation
      · exact .accepted _ _ rfl hm
    split
    · split
      · exact .violation
      · exact .accepted _ _ rfl hm
    split
    · exact .violation
    · exact .accepted _ _ rfl hm

theorem processTsEvent_verdict (hm : m.phase ≠ .poisoned) : Verdict m (m.processTsEvent frame) := by
  unfold processTsEvent
  dsimp only
  split
  · exact .accepted _ _ rfl nofun
  split
  · exact .violation
  split
  · exact .violation
  split
  · exact .violation
  · exact .accepted _ _ rfl hm

theorem processStream_verdict (hm : m.phase ≠ .poisoned) (sends : Bool) (event : ConnectionEvent) :
    Verdict m (m.processStream frame sends event) := by
  unfold processStream
  dsimp only
  split
  · split
    · exact .violation
    · exact .accepted _ _ rfl nofun
  · split
    · exact .violation
    · refine .accepted _ _ rfl ?_
      rw [enter_phase]
      split <;> nofun
  · split
    · exact .violation
    · exact processTsEvent_verdict hm

/-- A machine that is closed or poisoned refuses a frame; any other comes to a verdict. -/
theorem process_cases (m : ConnectionStateMachine) (frame : FrameView) (outbound : Bool) :
    ((m.phase = .closed ∨ m.phase = .poisoned) ∧ ∃ e, m.process frame outbound = (m, .error e)) ∨
      (m.phase ≠ .closed ∧ m.phase ≠ .poisoned ∧ Verdict m (m.process frame outbound)) := by
  unfold process
  split
  next hpoisoned => exact .inl ⟨.inr hpoisoned, _, rfl⟩
  next hm =>
    split
    next hclosed => exact .inl ⟨.inl hclosed, _, rfl⟩
    next hclosed =>
      refine .inr ⟨hclosed, hm, ?_⟩
      split
      · exact .violation
      · cases m.role with
        | controlClient => exact processControlClient_verdict hm
        | controlServer => exact processControlServer_verdict hm
        | streamClient => exact processStream_verdict hm ..
        | streamServer => exact processStream_verdict hm ..

theorem process_ok (h : m.process frame outbound = (m', .ok result)) :
    m'.role = m.role ∧ m.phase ≠ .closed ∧ m.phase ≠ .poisoned ∧ m'.phase ≠ .poisoned := by
  rcases process_cases m frame outbound with ⟨-, e, heq⟩ | ⟨hclosed, hpoisoned, hverdict⟩
  · rw [h] at heq
    cases heq
  · generalize hr : m.process frame outbound = r at hverdict
    cases hverdict with
    | accepted event type hrole hphase =>
      cases hr.symm.trans h
      exact ⟨hrole, hclosed, hpoisoned, hphase⟩
    | violation => cases hr.symm.trans h

theorem process_error {e : Error} (h : m.process frame outbound = (m', .error e)) :
    (m' = m ∧ (m.phase = .closed ∨ m.phase = .poisoned)) ∨
      (m'.phase = .poisoned ∧ m'.role = m.role ∧ m'.pending = false) := by
  rcases process_cases m frame outbound with ⟨hphase, e, heq⟩ | ⟨-, -, hverdict⟩
  · cases h.symm.trans heq
    exact .inl ⟨rfl, hphase⟩
  · generalize hr : m.process frame outbound = r at hverdict
    cases hverdict with
    | accepted => cases hr.symm.trans h
    | violation =>
      cases hr.symm.trans h
      exact .inr ⟨rfl, rfl, rfl⟩

theorem process_of_valid (hclosed : m.phase ≠ .closed) (hpoisoned : m.phase ≠ .poisoned)
    (hvalid : validateFrameView frame = .ok ()) : m.process frame outbound =
      match m.role with
      | .controlClient => m.processControlClient frame outbound
      | .controlServer => m.processControlServer frame outbound
      | .streamClient => m.processStreamClient frame outbound
      | .streamServer => m.processStreamServer frame outbound := by
  unfold process
  cases m.role <;> simp [hpoisoned, hclosed, hvalid]

theorem process_valid (h : m.process frame outbound = (m', .ok result)) :
    validateFrameView frame = .ok () := by
  obtain ⟨-, hclosed, hpoisoned, -⟩ := process_ok h
  rw [process, if_neg hpoisoned, if_neg hclosed] at h
  cases hvalid : validateFrameView frame with
  | ok => rfl
  | error e =>
    rw [hvalid] at h
    cases h

/-! ## What is sent -/

/-- A control client sends a HELLO first, and then one request at a time. -/
inductive ClientSends (m : ConnectionStateMachine) (frame : FrameView) :
    ConnectionStateMachine → Prop
  | hello {hello : HelloRequestPayload} (hphase : m.phase = .initial)
      (hkind : frame.header.kind = .request) (htype : frame.header.type = .hello)
      (hdecode : decodeHelloRequestPayload frame.payload = .ok hello) :
    ClientSends m frame
      (((m.request hello.requestedCapabilities).setPending frame.header).enter .handshake)
  | request (hphase : m.phase = .active) (hidle : m.pending = false)
      (hkind : frame.header.kind = .request) (htype : isControlRequest frame.header.type = true)
      (hcapability : m.negotiatedCapabilities &&& requiredCapability frame.header.type =
        requiredCapability frame.header.type) :
    ClientSends m frame (m.setPending frame.header)

theorem controlClient_sends (hrole : m.role = .controlClient)
    (h : m.processOutbound frame = (m', .ok result)) : ClientSends m frame m' := by
  obtain ⟨-, hclosed, hpoisoned, -⟩ := process_ok h
  rw [processOutbound, process_of_valid hclosed hpoisoned (process_valid h), hrole] at h
  unfold processControlClient at h
  dsimp only at h
  split at h
  next hphase =>
    split at h
    · cases h
    next hhello =>
      simp only [Bool.not_true, Bool.false_or, Bool.or_eq_true, bne_iff_ne,
        not_or, not_not] at hhello
      split at h
      · cases h
      next hdecode =>
        cases h
        exact .hello hphase hhello.1 hhello.2 hdecode
  next =>
    rw [Bool.true_or, if_pos rfl] at h
    cases h
  next hinitial hhandshake =>
    have hphase : m.phase = .active := by
      cases hp : m.phase <;> simp_all
    rw [if_pos rfl] at h
    split at h
    · cases h
    next hrequest =>
      simp only [Bool.or_eq_true, bne_iff_ne, Bool.not_eq_true', not_or, not_not, Bool.not_eq_true,
        Bool.not_eq_false] at hrequest
      split at h
      · cases h
      next hcapability =>
        cases h
        exact .request hphase hrequest.1.1 hrequest.1.2 hrequest.2 (not_not.1 hcapability)

/-- A control server answers the HELLO, and then sends events and answers requests. -/
inductive ServerSends (m : ConnectionStateMachine) (frame : FrameView) :
    ConnectionStateMachine → Prop
  | welcome {hello : HelloResponsePayload} (hphase : m.phase = .handshake)
      (hanswers : m.answersPending frame.header = true) (hcompatible : m.helloCompatible = true)
      (hkind : frame.header.kind = .response)
      (hdecode : decodeHelloResponsePayload frame.payload = .ok hello)
      (hcapabilities : hello.capabilities = m.negotiatedCapabilities) :
    ServerSends m frame (m.clearPending.enter .active)
  | refusal (hphase : m.phase = .handshake) (hanswers : m.answersPending frame.header = true)
      (hincompatible : m.helloCompatible = false) (hkind : frame.header.kind = .errorResponse) :
    ServerSends m frame (m.clearPending.enter .closed)
  | event (hphase : m.phase = .active) (hkind : frame.header.kind = .event)
      (htype : frame.header.type = .deviceEvent)
      (hcapability : m.negotiatedCapabilities &&& kCapabilityEvents ≠ 0) : ServerSends m frame m
  | response (hphase : m.phase = .active) (hanswers : m.answersPending frame.header = true) :
    ServerSends m frame m.clearPending

theorem controlServer_sends (hrole : m.role = .controlServer)
    (h : m.processOutbound frame = (m', .ok result)) : ServerSends m frame m' := by
  obtain ⟨-, hclosed, hpoisoned, -⟩ := process_ok h
  rw [processOutbound, process_of_valid hclosed hpoisoned (process_valid h), hrole] at h
  unfold processControlServer at h
  dsimp only at h
  split at h
  next =>
    rw [Bool.true_or, Bool.true_or, if_pos rfl] at h
    cases h
  next hphase =>
    split at h
    · cases h
    next hanswers =>
      have hanswers : m.answersPending frame.header = true := by simpa using hanswers
      split at h
      next hcompatible =>
        split at h
        · cases h
        next hkind =>
          split at h
          · cases h
          next hdecode =>
            split at h
            · cases h
            next hhello =>
              cases h
              simp only [not_or, not_not] at hhello
              exact .welcome hphase hanswers hcompatible (not_not.1 hkind) hdecode hhello.2.2
      next hcompatible =>
        split at h
        · cases h
        next hkind =>
          split at h
          · cases h
          split at h
          · cases h
          · cases h
            exact .refusal hphase hanswers (by simpa using hcompatible) (not_not.1 hkind)
  next hinitial hhandshake =>
    have hphase : m.phase = .active := by
      cases hp : m.phase <;> simp_all
    rw [Bool.not_true, if_neg nofun] at h
    split at h
    next hevent =>
      split at h
      · cases h
      next hcapability =>
        cases h
        exact .event hphase hevent.1 hevent.2 hcapability
    next =>
      split at h
      · cases h
      next hanswers =>
        cases h
        exact .response hphase (by simpa using hanswers)

/-- A stream client sends its request only. -/
theorem streamClient_sends (hrole : m.role = .streamClient)
    (h : m.processOutbound frame = (m', .ok result)) :
    m.phase = .initial ∧ frame.header.kind = .request ∧ frame.header.type = .attachStream ∧
      m' = (m.setPending frame.header).enter .handshake := by
  obtain ⟨-, hclosed, hpoisoned, -⟩ := process_ok h
  rw [processOutbound, process_of_valid hclosed hpoisoned (process_valid h), hrole] at h
  unfold processStreamClient processStream at h
  dsimp only at h
  split at h
  next hphase =>
    split at h
    · cases h
    next hattach =>
      simp only [Bool.not_true, Bool.false_or, Bool.or_eq_true, bne_iff_ne,
        not_or, not_not] at hattach
      cases h
      exact ⟨hphase, hattach.1, hattach.2, rfl⟩
  next =>
    rw [Bool.true_or, if_pos rfl] at h
    cases h
  next =>
    rw [Bool.true_or, Bool.true_or, if_pos rfl] at h
    cases h

/-- A stream server answers the request, and then sends the events of the stream. -/
inductive StreamSends (m : ConnectionStateMachine) (frame : FrameView)
    (m' : ConnectionStateMachine) : Prop
  | answer (hphase : m.phase = .handshake) (hanswers : m.answersPending frame.header = true)
      (heq : m' = m.clearPending.enter
        (if frame.header.kind = .response then .active else .closed))
  | event (hphase : m.phase = .active) (hkind : frame.header.kind = .event)
      (htype : frame.header.type = .tsData ∨ frame.header.type = .streamEnd)
      (result : ConnectionResult) (heq : m.processTsEvent frame = (m', .ok result))

theorem streamServer_sends (hrole : m.role = .streamServer)
    (h : m.processOutbound frame = (m', .ok result)) : StreamSends m frame m' := by
  obtain ⟨-, hclosed, hpoisoned, -⟩ := process_ok h
  rw [processOutbound, process_of_valid hclosed hpoisoned (process_valid h), hrole] at h
  unfold processStreamServer processStream at h
  dsimp only at h
  split at h
  next => cases h
  next hphase =>
    split at h
    · cases h
    next hanswers =>
      cases h
      exact .answer hphase (by simpa using hanswers) rfl
  next hinitial hhandshake =>
    have hphase : m.phase = .active := by
      cases hp : m.phase <;> simp_all
    split at h
    · cases h
    next hevent =>
      simp only [Bool.not_true, Bool.false_or, Bool.or_eq_true, bne_iff_ne,
        Bool.and_eq_true, not_or,
        not_and, not_not, ne_eq] at hevent
      refine .event hphase hevent.1 ?_ result h
      by_cases htype : frame.header.type = .tsData
      · exact .inl htype
      · exact .inr (hevent.2 htype)

/-! ## What is accepted -/

theorem controlServer_greeted (hrole : m.role = .controlServer) (hphase : m.phase = .initial)
    (hvalid : validateFrameView frame = .ok ()) (hkind : frame.header.kind = .request)
    (htype : frame.header.type = .hello) {hello : HelloRequestPayload}
    (hdecode : decodeHelloRequestPayload frame.payload = .ok hello) :
    ∃ m' result, m.processInbound frame = (m', .ok result) ∧ m'.phase = .handshake ∧
      m'.pending = true ∧ m'.pendingHeader = frame.header ∧
      m'.helloCompatible = includesProtocolV1 hello ∧
      m'.negotiatedCapabilities =
        hello.requestedCapabilities &&& kKnownCapabilities &&& m.serverSupportedCapabilities := by
  rw [processInbound, process_of_valid (by rw [hphase]; nofun)
    (by rw [hphase]; nofun) hvalid, hrole]
  simp only [processControlServer, hphase, hkind, htype, hdecode]
  exact ⟨_, _, rfl, rfl, rfl, rfl, rfl, rfl⟩

theorem controlServer_asked (hrole : m.role = .controlServer) (hphase : m.phase = .active)
    (hvalid : validateFrameView frame = .ok ()) (hidle : m.pending = false)
    (hkind : frame.header.kind = .request) (htype : isControlRequest frame.header.type = true)
    (hcapability : m.negotiatedCapabilities &&& requiredCapability frame.header.type =
      requiredCapability frame.header.type) :
    ∃ result, m.processInbound frame = (m.setPending frame.header, .ok result) := by
  rw [processInbound, process_of_valid (by rw [hphase]; nofun)
    (by rw [hphase]; nofun) hvalid, hrole]
  simp only [processControlServer, hphase, hkind, htype, hidle, hcapability, ne_eq,
    not_true_eq_false, if_false]
  exact ⟨_, rfl⟩

theorem controlClient_welcomed (hrole : m.role = .controlClient) (hphase : m.phase = .handshake)
    (hvalid : validateFrameView frame = .ok ()) (hanswers : m.answersPending frame.header = true)
    (hkind : frame.header.kind = .response) {hello : HelloResponsePayload}
    (hdecode : decodeHelloResponsePayload frame.payload = .ok hello)
    (hcapabilities : hello.capabilities &&& kKnownCapabilities &&&
      ~~~(m.requestedCapabilities &&& kKnownCapabilities) = 0) :
    ∃ result, m.processInbound frame =
      ((m.negotiate (hello.capabilities &&& kKnownCapabilities)).clearPending.enter .active,
        .ok result) := by
  rw [processInbound, process_of_valid (by rw [hphase]; nofun)
    (by rw [hphase]; nofun) hvalid, hrole]
  simp only [processControlClient, hphase, hkind, hanswers, hdecode, hcapabilities]
  exact ⟨_, rfl⟩

theorem controlClient_refused (hrole : m.role = .controlClient) (hphase : m.phase = .handshake)
    (hvalid : validateFrameView frame = .ok ()) (hanswers : m.answersPending frame.header = true)
    (hkind : frame.header.kind = .errorResponse) :
    ∃ result, m.processInbound frame = (m.clearPending.enter .closed, .ok result) := by
  rw [processInbound, process_of_valid (by rw [hphase]; nofun)
    (by rw [hphase]; nofun) hvalid, hrole]
  simp only [processControlClient, hphase, hkind, hanswers]
  exact ⟨_, rfl⟩

theorem controlClient_event (hrole : m.role = .controlClient) (hphase : m.phase = .active)
    (hvalid : validateFrameView frame = .ok ()) (hkind : frame.header.kind = .event)
    (htype : frame.header.type = .deviceEvent)
    (hcapability : m.negotiatedCapabilities &&& kCapabilityEvents ≠ 0) :
    ∃ result, m.processInbound frame = (m, .ok result) := by
  rw [processInbound, process_of_valid (by rw [hphase]; nofun)
    (by rw [hphase]; nofun) hvalid, hrole]
  simp only [processControlClient, hphase, hkind, htype, if_neg hcapability]
  exact ⟨_, rfl⟩

theorem controlClient_answered (hrole : m.role = .controlClient) (hphase : m.phase = .active)
    (hvalid : validateFrameView frame = .ok ()) (hanswers : m.answersPending frame.header = true) :
    ∃ result, m.processInbound frame = (m.clearPending, .ok result) := by
  have hkind : frame.header.kind ≠ .event := by
    intro hkind
    simp [answersPending, hkind] at hanswers
  rw [processInbound, process_of_valid (by rw [hphase]; nofun)
    (by rw [hphase]; nofun) hvalid, hrole]
  simp only [processControlClient, hphase, hanswers, hkind, false_and]
  exact ⟨_, rfl⟩

theorem streamServer_attached (hrole : m.role = .streamServer) (hphase : m.phase = .initial)
    (hvalid : validateFrameView frame = .ok ()) (hkind : frame.header.kind = .request)
    (htype : frame.header.type = .attachStream) :
    ∃ result, m.processInbound frame =
      ((m.setPending frame.header).enter .handshake, .ok result) := by
  rw [processInbound, process_of_valid (by rw [hphase]; nofun)
    (by rw [hphase]; nofun) hvalid, hrole]
  simp only [processStreamServer, processStream, hphase, hkind, htype]
  exact ⟨_, rfl⟩

theorem streamClient_answered (hrole : m.role = .streamClient) (hphase : m.phase = .handshake)
    (hvalid : validateFrameView frame = .ok ()) (hanswers : m.answersPending frame.header = true) :
    ∃ result, m.processInbound frame =
      (m.clearPending.enter (if frame.header.kind = .response then .active else .closed),
        .ok result) := by
  rw [processInbound, process_of_valid (by rw [hphase]; nofun)
    (by rw [hphase]; nofun) hvalid, hrole]
  simp only [processStreamClient, processStream, hphase, hanswers]
  exact ⟨_, rfl⟩

theorem streamClient_event (hrole : m.role = .streamClient) (hphase : m.phase = .active)
    (hvalid : validateFrameView frame = .ok ()) (hkind : frame.header.kind = .event)
    (htype : frame.header.type = .tsData ∨ frame.header.type = .streamEnd) :
    m.processInbound frame = m.processTsEvent frame := by
  rw [processInbound, process_of_valid (by rw [hphase]; nofun)
    (by rw [hphase]; nofun) hvalid, hrole]
  rcases htype with htype | htype
  · simp [processStreamClient, processStream, hphase, hkind, htype]
  · simp [processStreamClient, processStream, hphase, hkind, htype]

end ConnectionStateMachine

end Px4.Ipc
