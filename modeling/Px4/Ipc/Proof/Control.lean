import Px4.Ipc.Proof.Pair

/-!
# The control pair

`Control` is where the conversation of a control client and a control server can be, when neither is
poisoned: the HELLO on its way, with the server, its answer on its way; then one request at a time
(`Exchange`), with events of the server between. It is calm (`control_calm`), so every run of the
pair agrees: `control_agreement`.
-/

namespace Px4.Ipc

open ConnectionStateMachine

/-! ## Capabilities -/

/-- What a server that supports `supported` grants. -/
def granted (supported : UInt32) (hello : HelloRequestPayload) : UInt32 :=
  hello.requestedCapabilities &&& supported &&& kKnownCapabilities

section

variable (requested supported known : UInt32)

theorem and_known : requested &&& known &&& (supported &&& known) = requested &&&
    supported &&& known := by
  rw [UInt32.and_assoc, UInt32.and_comm supported known, ← UInt32.and_assoc known known,
    UInt32.and_self, UInt32.and_comm known supported, UInt32.and_assoc]

theorem granted_known : requested &&& supported &&& known &&& known = requested &&&
    supported &&& known := by
  rw [UInt32.and_assoc, UInt32.and_self]

/-- What is granted was requested. -/
theorem granted_requested :
    requested &&& supported &&& known &&& ~~~(requested &&& known) = 0 := by
  have hcomm : requested &&& supported &&& known = supported &&& (requested &&& known) := by
    rw [UInt32.and_comm requested supported, UInt32.and_assoc]
  rw [hcomm, UInt32.and_assoc, UInt32.and_not_self, UInt32.and_zero]

end

/-! ## Where the conversation can be -/

/-- The role and the phase of a machine, and if a request is pending. -/
structure ConnectionStateMachine.Is (m : ConnectionStateMachine) (role : ConnectionRole)
    (phase : ConnectionPhase) (pending : Bool) : Prop where
  role : m.role = role
  phase : m.phase = phase
  pending : m.pending = pending

namespace Pair

/-- An event that a client with these capabilities accepts. -/
structure EventFrame (capabilities : UInt32) (frame : FrameView) : Prop where
  valid : validateFrameView frame = .ok ()
  kind : frame.header.kind = .event
  type : frame.header.type = .deviceEvent
  capability : capabilities &&& kCapabilityEvents ≠ 0

/-- A response that a machine waits for. -/
structure Answer (m : ConnectionStateMachine) (frame : FrameView) : Prop where
  valid : validateFrameView frame = .ok ()
  answers : m.answersPending frame.header = true

/-- The client has sent this HELLO. -/
structure Greeted (p : Pair) (hello : HelloRequestPayload) : Prop where
  sent : ∃ frame rest, p.clientSent = frame :: rest ∧
    decodeHelloRequestPayload frame.payload = .ok hello
  requested : p.client.requestedCapabilities = hello.requestedCapabilities

/-- The header of a HELLO request. -/
structure HelloHeader (header : FrameHeader) : Prop where
  major : header.major = kProtocolMajor
  minor : header.minor = kProtocolMinor
  kind : header.kind = .request
  type : header.type = .hello

/-- Where the request is, if there is one: nowhere, on its way, with the server, or answered. -/
inductive Exchange (capabilities : UInt32) (p : Pair) : Prop
  | idle (hclient : p.client.Is .controlClient .active false)
      (hserver : p.server.Is .controlServer .active false) (htoServer : p.toServer = [])
      (hevents : ∀ frame ∈ p.toClient, EventFrame capabilities frame)
  | asked {frame : FrameView} (hclient : p.client.Is .controlClient .active true)
      (hserver : p.server.Is .controlServer .active false) (htoServer : p.toServer = [frame])
      (hvalid : validateFrameView frame = .ok ()) (hkind : frame.header.kind = .request)
      (htype : isControlRequest frame.header.type = true)
      (hcapability : capabilities &&& requiredCapability frame.header.type =
        requiredCapability frame.header.type)
      (hheader : p.client.pendingHeader = frame.header)
      (hevents : ∀ frame ∈ p.toClient, EventFrame capabilities frame)
  | serving (hclient : p.client.Is .controlClient .active true)
      (hserver : p.server.Is .controlServer .active true)
      (hheader : p.server.pendingHeader = p.client.pendingHeader) (htoServer : p.toServer = [])
      (hevents : ∀ frame ∈ p.toClient, EventFrame capabilities frame)
  | answered {before after : List FrameView} {frame : FrameView}
      (hclient : p.client.Is .controlClient .active true)
      (hserver : p.server.Is .controlServer .active false) (htoServer : p.toServer = [])
      (htoClient : p.toClient = before ++ frame :: after) (hanswer : Answer p.client frame)
      (hbefore : ∀ frame ∈ before, EventFrame capabilities frame)
      (hafter : ∀ frame ∈ after, EventFrame capabilities frame)

/-- Where the conversation can be. -/
inductive Control (supported : UInt32) (p : Pair) : Prop
  | initial (hclient : p.client.Is .controlClient .initial false)
      (hserver : p.server.Is .controlServer .initial false)
      (hsupported : p.server.serverSupportedCapabilities = supported &&& kKnownCapabilities)
      (hsent : p.clientSent = []) (htoServer : p.toServer = []) (htoClient : p.toClient = [])
  | greeting {hello : HelloRequestPayload} {frame : FrameView} (hgreeted : Greeted p hello)
      (hclient : p.client.Is .controlClient .handshake true)
      (hserver : p.server.Is .controlServer .initial false)
      (hsupported : p.server.serverSupportedCapabilities = supported &&& kKnownCapabilities)
      (htoServer : p.toServer = [frame]) (htoClient : p.toClient = [])
      (hvalid : validateFrameView frame = .ok ()) (hkind : frame.header.kind = .request)
      (htype : frame.header.type = .hello)
      (hdecode : decodeHelloRequestPayload frame.payload = .ok hello)
      (hheader : p.client.pendingHeader = frame.header)
  | deciding {hello : HelloRequestPayload} (hgreeted : Greeted p hello)
      (hclient : p.client.Is .controlClient .handshake true)
      (hserver : p.server.Is .controlServer .handshake true)
      (hcompatible : p.server.helloCompatible = includesProtocolV1 hello)
      (hgranted : p.server.negotiatedCapabilities = granted supported hello)
      (hheader : p.server.pendingHeader = p.client.pendingHeader)
      (hhello : HelloHeader p.server.pendingHeader) (htoServer : p.toServer = [])
      (htoClient : p.toClient = [])
  | welcomed {hello : HelloRequestPayload} {response : HelloResponsePayload} {frame : FrameView}
      {events : List FrameView} (hgreeted : Greeted p hello)
      (hcompatible : includesProtocolV1 hello = true)
      (hclient : p.client.Is .controlClient .handshake true)
      (hserver : p.server.Is .controlServer .active false)
      (hgranted : p.server.negotiatedCapabilities = granted supported hello)
      (htoServer : p.toServer = []) (htoClient : p.toClient = frame :: events)
      (hanswer : Answer p.client frame) (hkind : frame.header.kind = .response)
      (hdecode : decodeHelloResponsePayload frame.payload = .ok response)
      (hcapabilities : response.capabilities = granted supported hello)
      (hevents : ∀ frame ∈ events, EventFrame (granted supported hello) frame)
  | refused {hello : HelloRequestPayload} {frame : FrameView} (hgreeted : Greeted p hello)
      (hincompatible : includesProtocolV1 hello = false)
      (hclient : p.client.Is .controlClient .handshake true)
      (hserver : p.server.Is .controlServer .closed false) (htoServer : p.toServer = [])
      (htoClient : p.toClient = [frame]) (hanswer : Answer p.client frame)
      (hkind : frame.header.kind = .errorResponse)
  | closed {hello : HelloRequestPayload} (hgreeted : Greeted p hello)
      (hincompatible : includesProtocolV1 hello = false)
      (hclient : p.client.Is .controlClient .closed false)
      (hserver : p.server.Is .controlServer .closed false) (htoServer : p.toServer = [])
      (htoClient : p.toClient = [])
  | active {hello : HelloRequestPayload} (hgreeted : Greeted p hello)
      (hcompatible : includesProtocolV1 hello = true)
      (hclient : p.client.negotiatedCapabilities = granted supported hello)
      (hserver : p.server.negotiatedCapabilities = granted supported hello)
      (hexchange : Exchange (granted supported hello) p)

/-! ## Steps -/

section

variable {supported capabilities : UInt32} {p : Pair} {m : ConnectionStateMachine}
  {frame : FrameView}
  {rest : List FrameView} {result : ConnectionResult} {hello : HelloRequestPayload}

theorem Greeted.congr {p' : Pair} (h : Greeted p hello) (hsent : p'.clientSent = p.clientSent)
    (hrequested : p'.client.requestedCapabilities = p.client.requestedCapabilities) :
    Greeted p' hello :=
  ⟨hsent ▸ h.sent, hrequested.trans h.requested⟩

theorem Greeted.append (h : Greeted p hello) (hrequested : m.requestedCapabilities =
    p.client.requestedCapabilities) : Greeted (p.clientSends m frame) hello := by
  obtain ⟨first, others, hsent, hdecode⟩ := h.sent
  refine ⟨⟨first, others ++ [frame], ?_, hdecode⟩, hrequested.trans h.requested⟩
  exact congrArg (· ++ [frame]) hsent

theorem EventFrame.notResponse (h : EventFrame capabilities frame) : frame.isResponse = false := by
  simp [FrameView.isResponse, h.kind]

theorem Answer.response (h : Answer m frame) : frame.isResponse = true := by
  have hanswers := h.answers
  simp only [answersPending, Bool.and_eq_true] at hanswers
  exact hanswers.1.2

theorem events_notResponse (h : ∀ frame ∈ rest, EventFrame capabilities frame) :
    rest.filter FrameView.isResponse = [] := by
  rw [List.filter_eq_nil_iff]
  intro frame hframe
  rw [(h frame hframe).notResponse]
  nofun

/-- Two machines with the same pending request wait for the same responses. -/
theorem answersPending_congr {m' : ConnectionStateMachine} (hpending : m'.pending = m.pending)
    (hheader : m'.pendingHeader = m.pendingHeader) (header : FrameHeader) :
    m'.answersPending header = m.answersPending header := by
  rw [answersPending, answersPending, hpending, hheader]

theorem not_answersPending (h : m.pending = false) (header : FrameHeader) :
    m.answersPending header = false := by
  rw [answersPending, h, Bool.false_and, Bool.false_and]

theorem forall_append (h : ∀ frame ∈ rest, EventFrame capabilities frame)
    (hframe : EventFrame capabilities frame) :
    ∀ e ∈ rest ++ [frame], EventFrame capabilities e := by
  intro e he
  rcases List.mem_append.1 he with he | he
  · exact h e he
  · rw [List.mem_singleton.1 he]
    exact hframe

theorem Exchange.clientSends (h : Exchange capabilities p)
    (hnegotiated : p.client.negotiatedCapabilities = capabilities)
    (hvalid : validateFrameView frame = .ok ()) (hsends : ClientSends p.client frame m) :
    Exchange capabilities (p.clientSends m frame) ∧ p.client.pending = false ∧ m.pending = true ∧
      m.pendingHeader = frame.header ∧ m.negotiatedCapabilities = p.client.negotiatedCapabilities ∧
      m.requestedCapabilities = p.client.requestedCapabilities := by
  have hactive : p.client.phase = .active := by
    cases h with
    | idle hclient | asked hclient | serving hclient | answered hclient => exact hclient.phase
  cases hsends with
  | hello hphase => exact absurd (hactive.symm.trans hphase) nofun
  | request hphase hidle hkind htype hcapability =>
    rw [hnegotiated] at hcapability
    refine ⟨?_, hidle, rfl, rfl, rfl, rfl⟩
    cases h with
    | idle hclient hserver htoServer hevents =>
      have htoServer' : p.toServer ++ [frame] = [frame] := by rw [htoServer, List.nil_append]
      exact .asked ⟨hclient.role, hphase, rfl⟩ hserver htoServer' hvalid hkind htype hcapability rfl
        hevents
    | asked hclient | serving hclient | answered hclient =>
      exact absurd (hclient.pending.symm.trans hidle) nofun

theorem Control.clientSends (h : Control supported p)
    (hsends : p.client.processOutbound frame = (m, .ok result)) :
    Control supported (p.clientSends m frame) ∧ p.client.pending = false ∧ m.pending = true ∧
      m.pendingHeader = frame.header := by
  have hvalid := process_valid hsends
  have hrole : p.client.role = .controlClient := by
    cases h with
    | initial hclient | greeting _ hclient | deciding _ hclient | welcomed _ _ hclient
    | refused _ _ hclient | closed _ _ hclient => exact hclient.role
    | active _ _ _ _ hexchange =>
      cases hexchange with
      | idle hclient | asked hclient | serving hclient | answered hclient => exact hclient.role
  have hcases := controlClient_sends hrole hsends
  cases h with
  | initial hclient hserver hsupported hsent htoServer htoClient =>
    cases hcases with
    | hello _ hkind htype hdecode =>
      have htoServer' : p.toServer ++ [frame] = [frame] := by rw [htoServer, List.nil_append]
      have hsent' : p.clientSent ++ [frame] = [frame] := by rw [hsent, List.nil_append]
      refine ⟨.greeting ⟨⟨frame, [], hsent', hdecode⟩, rfl⟩ ⟨hclient.role, rfl, rfl⟩ hserver
        hsupported htoServer' htoClient hvalid hkind htype hdecode rfl, hclient.pending, rfl, rfl⟩
    | request hphase => exact absurd (hclient.phase.symm.trans hphase) nofun
  | greeting _ hclient | deciding _ hclient | welcomed _ _ hclient | refused _ _ hclient
  | closed _ _ hclient =>
    cases hcases with
    | hello hphase | request hphase => exact absurd (hclient.phase.symm.trans hphase) nofun
  | active hgreeted hcompatible hclient hserver hexchange =>
    obtain ⟨hexchange', hidle, hpending, hheader, hnegotiated, hrequested⟩ :=
      hexchange.clientSends hclient hvalid hcases
    exact ⟨.active (hgreeted.append hrequested) hcompatible (hnegotiated.trans hclient) hserver
      hexchange', hidle, hpending, hheader⟩

theorem Exchange.serverSends (h : Exchange capabilities p)
    (hnegotiated : p.server.negotiatedCapabilities = capabilities)
    (hvalid : validateFrameView frame = .ok ()) (hsends : ServerSends p.server frame m) :
    Exchange capabilities (p.serverSends m frame) ∧
      m.negotiatedCapabilities = p.server.negotiatedCapabilities := by
  have hactive : p.server.phase = .active := by
    cases h with
    | idle _ hserver | asked _ hserver | serving _ hserver | answered _ hserver =>
      exact hserver.phase
  cases hsends with
  | welcome hphase | refusal hphase => exact absurd (hactive.symm.trans hphase) nofun
  | event _ hkind htype hcapability =>
    rw [hnegotiated] at hcapability
    have hevent : EventFrame capabilities frame := ⟨hvalid, hkind, htype, hcapability⟩
    refine ⟨?_, rfl⟩
    cases h with
    | idle hclient hserver htoServer hevents =>
      exact .idle hclient hserver htoServer (forall_append hevents hevent)
    | asked hclient hserver htoServer hvalid hkind htype hcapability hheader hevents =>
      exact .asked hclient hserver htoServer hvalid hkind htype hcapability hheader
        (forall_append hevents hevent)
    | serving hclient hserver hheader htoServer hevents =>
      exact .serving hclient hserver hheader htoServer (forall_append hevents hevent)
    | @answered before after answer hclient hserver htoServer htoClient hanswer hbefore hafter =>
      have htoClient' : p.toClient ++ [frame] = before ++ answer :: (after ++ [frame]) := by
        rw [htoClient, List.append_assoc, List.cons_append]
      exact .answered hclient hserver htoServer htoClient' hanswer hbefore
        (forall_append hafter hevent)
  | response _ hanswers =>
    refine ⟨?_, rfl⟩
    cases h with
    | serving hclient hserver hheader htoServer hevents =>
      rw [answersPending_congr (hserver.pending.trans hclient.pending.symm) hheader] at hanswers
      exact .answered hclient ⟨hserver.role, hactive, rfl⟩ htoServer rfl ⟨hvalid, hanswers⟩ hevents
        nofun
    | idle _ hserver | asked _ hserver | answered _ hserver =>
      rw [not_answersPending hserver.pending] at hanswers
      cases hanswers

theorem Control.serverSends (h : Control supported p)
    (hsends : p.server.processOutbound frame = (m, .ok result)) :
    Control supported (p.serverSends m frame) := by
  have hvalid := process_valid hsends
  have hrole : p.server.role = .controlServer := by
    cases h with
    | initial _ hserver | greeting _ _ hserver | deciding _ _ hserver | welcomed _ _ _ hserver
    | refused _ _ _ hserver | closed _ _ _ hserver => exact hserver.role
    | active _ _ _ _ hexchange =>
      cases hexchange with
      | idle _ hserver | asked _ hserver | serving _ hserver | answered _ hserver =>
        exact hserver.role
  have hcases := controlServer_sends hrole hsends
  cases h with
  | initial _ hserver | greeting _ _ hserver | refused _ _ _ hserver | closed _ _ _ hserver =>
    cases hcases with
    | welcome hphase | refusal hphase | event hphase | response hphase =>
      exact absurd (hserver.phase.symm.trans hphase) nofun
  | deciding hgreeted hclient hserver hcompatible hgranted hheader hhello htoServer htoClient =>
    have htoClient' : p.toClient ++ [frame] = [frame] := by rw [htoClient, List.nil_append]
    have hanswer (hanswers : p.server.answersPending frame.header = true) :
        Answer p.client frame := by
      rw [answersPending_congr (hserver.pending.trans hclient.pending.symm) hheader] at hanswers
      exact ⟨hvalid, hanswers⟩
    cases hcases with
    | welcome _ hanswers hyes hkind hdecode hcapabilities =>
      exact .welcomed (hgreeted.congr rfl rfl) (hcompatible.symm.trans hyes) hclient
        ⟨hserver.role, rfl, rfl⟩ hgranted
        htoServer htoClient' (hanswer hanswers) hkind hdecode (hcapabilities.trans hgranted) nofun
    | refusal _ hanswers hno hkind =>
      exact .refused (hgreeted.congr rfl rfl) (hcompatible.symm.trans hno) hclient
        ⟨hserver.role, rfl, rfl⟩ htoServer
        htoClient' (hanswer hanswers) hkind
    | event hphase | response hphase => exact absurd (hserver.phase.symm.trans hphase) nofun
  | @welcomed hello response welcome events hgreeted hcompatible hclient hserver hgranted htoServer
      htoClient hanswer hkind hdecode hcapabilities hevents =>
    have htoClient' : p.toClient ++ [frame] = welcome :: (events ++ [frame]) := by
      rw [htoClient, List.cons_append]
    cases hcases with
    | welcome hphase | refusal hphase => exact absurd (hserver.phase.symm.trans hphase) nofun
    | event _ hkind' htype hcapability =>
      rw [hgranted] at hcapability
      exact .welcomed (hgreeted.congr rfl rfl) hcompatible hclient hserver hgranted htoServer
        htoClient' hanswer hkind
        hdecode hcapabilities (forall_append hevents ⟨hvalid, hkind', htype, hcapability⟩)
    | response _ hanswers =>
      rw [not_answersPending hserver.pending] at hanswers
      cases hanswers
  | active hgreeted hcompatible hclient hserver hexchange =>
    obtain ⟨hexchange', hnegotiated⟩ := hexchange.serverSends hserver hvalid hcases
    exact .active (hgreeted.congr rfl rfl) hcompatible hclient (hnegotiated.trans hserver)
      hexchange'

theorem helloHeader_of_valid (hvalid : validateFrameView frame = .ok ())
    (hkind : frame.header.kind = .request) (htype : frame.header.type = .hello) :
    HelloHeader frame.header := by
  unfold validateFrameView at hvalid
  split at hvalid
  · cases hvalid
  split at hvalid
  · cases hvalid
  next hheader =>
    simp only [Bool.or_eq_true, Bool.not_eq_true', not_or, Bool.not_eq_false] at hheader
    have hfields := hheader.1
    unfold validateHeaderFields at hfields
    split at hfields
    · cases hfields
    next hversion =>
      simp only [Bool.or_eq_true, bne_iff_ne, not_or, not_not] at hversion
      exact ⟨hversion.1.1.2, hversion.1.2, hkind, htype⟩

/-- **What is delivered to the server** is accepted. -/
theorem Control.serverGets (h : Control supported p) (hnext : p.toServer = frame :: rest) :
    ∃ m result, p.server.processInbound frame = (m, .ok result) ∧
      Control supported (p.serverGets m rest) := by
  cases h with
  | initial _ _ _ _ htoServer | deciding _ _ _ _ _ _ _ htoServer | welcomed _ _ _ _ _ htoServer
  | refused _ _ _ _ htoServer | closed _ _ _ _ htoServer =>
    exact absurd (htoServer.symm.trans hnext) nofun
  | greeting hgreeted hclient hserver hsupported htoServer htoClient hvalid hkind htype hdecode
      hheader =>
    cases htoServer.symm.trans hnext
    obtain ⟨m, result, haccepts, hphase, hpending, hheader', hcompatible, hnegotiated⟩ :=
      controlServer_greeted hserver.role hserver.phase hvalid hkind htype hdecode
    refine ⟨m, result, haccepts, .deciding (hgreeted.congr rfl rfl) hclient
      ⟨(process_ok haccepts).1.trans hserver.role, hphase, hpending⟩ hcompatible ?_
      (hheader'.trans hheader.symm) (hheader' ▸ helloHeader_of_valid hvalid hkind htype) rfl
      htoClient⟩
    show m.negotiatedCapabilities = _
    rw [hnegotiated, hsupported, and_known]
    rfl
  | active hgreeted hcompatible hclient hserver hexchange =>
    cases hexchange with
    | idle _ _ htoServer | serving _ _ _ htoServer | answered _ _ htoServer =>
      exact absurd (htoServer.symm.trans hnext) nofun
    | asked hclient' hserver' htoServer hvalid hkind htype hcapability hheader hevents =>
      cases htoServer.symm.trans hnext
      rw [← hserver] at hcapability
      obtain ⟨result, haccepts⟩ := controlServer_asked hserver'.role hserver'.phase hvalid
        hserver'.pending hkind htype hcapability
      exact ⟨_, result, haccepts, .active (hgreeted.congr rfl rfl) hcompatible hclient
        hserver (.serving hclient' ⟨hserver'.role, hserver'.phase, rfl⟩ hheader.symm rfl hevents)⟩

theorem EventFrame.settles (h : EventFrame capabilities frame) : Settles p p.client frame := by
  rw [Settles, if_neg (by rw [h.notResponse]; rintro ⟨⟩)]
  exact ⟨rfl, rfl⟩

theorem Answer.settles (h : Answer p.client frame) (hidle : m.pending = false) :
    Settles p m frame := by
  rw [Settles, if_pos h.response]
  exact ⟨h.answers, hidle⟩

theorem Exchange.clientGets (h : Exchange capabilities p)
    (hnegotiated : p.client.negotiatedCapabilities = capabilities)
    (hnext : p.toClient = frame :: rest) :
    ∃ m result, p.client.processInbound frame = (m, .ok result) ∧
      Exchange capabilities (p.clientGets m frame rest) ∧ Settles p m frame ∧
      m.negotiatedCapabilities = p.client.negotiatedCapabilities ∧
      m.requestedCapabilities = p.client.requestedCapabilities := by
  have hevent {pending : Bool} (hclient : p.client.Is .controlClient .active pending)
      (hframe : EventFrame capabilities frame) :
      ∃ result, p.client.processInbound frame = (p.client, .ok result) :=
    controlClient_event hclient.role hclient.phase hframe.valid hframe.kind hframe.type
      (hnegotiated ▸ hframe.capability)
  cases h with
  | idle hclient hserver htoServer hevents =>
    rw [hnext] at hevents
    obtain ⟨hframe, hevents⟩ := List.forall_mem_cons.1 hevents
    obtain ⟨result, haccepts⟩ := hevent hclient hframe
    exact ⟨_, result, haccepts, .idle hclient hserver htoServer hevents, hframe.settles, rfl, rfl⟩
  | asked hclient hserver htoServer hvalid hkind htype hcapability hheader hevents =>
    rw [hnext] at hevents
    obtain ⟨hframe, hevents⟩ := List.forall_mem_cons.1 hevents
    obtain ⟨result, haccepts⟩ := hevent hclient hframe
    exact ⟨_, result, haccepts,
      .asked hclient hserver htoServer hvalid hkind htype hcapability hheader
      hevents, hframe.settles, rfl, rfl⟩
  | serving hclient hserver hheader htoServer hevents =>
    rw [hnext] at hevents
    obtain ⟨hframe, hevents⟩ := List.forall_mem_cons.1 hevents
    obtain ⟨result, haccepts⟩ := hevent hclient hframe
    exact ⟨_, result, haccepts, .serving hclient hserver hheader htoServer hevents,
      hframe.settles, rfl,
      rfl⟩
  | @answered before after answer hclient hserver htoServer htoClient hanswer hbefore hafter =>
    cases before with
    | nil =>
      cases hnext.symm.trans htoClient
      obtain ⟨result, haccepts⟩ := controlClient_answered hclient.role hclient.phase hanswer.valid
        hanswer.answers
      exact ⟨_, result, haccepts, .idle ⟨hclient.role, hclient.phase, rfl⟩ hserver htoServer hafter,
        hanswer.settles rfl, rfl, rfl⟩
    | cons first before =>
      cases hnext.symm.trans htoClient
      obtain ⟨hframe, hbefore⟩ := List.forall_mem_cons.1 hbefore
      obtain ⟨result, haccepts⟩ := hevent hclient hframe
      exact ⟨_, result, haccepts, .answered hclient hserver htoServer rfl hanswer hbefore hafter,
        hframe.settles, rfl, rfl⟩

/-- **What is delivered to the client** is accepted. -/
theorem Control.clientGets (h : Control supported p) (hnext : p.toClient = frame :: rest) :
    ∃ m result, p.client.processInbound frame = (m, .ok result) ∧
      Control supported (p.clientGets m frame rest) ∧ Settles p m frame := by
  cases h with
  | initial _ _ _ _ _ htoClient | greeting _ _ _ _ _ htoClient | deciding _ _ _ _ _ _ _ _ htoClient
  | closed _ _ _ _ _ htoClient => exact absurd (htoClient.symm.trans hnext) nofun
  | @welcomed hello response welcome events hgreeted hcompatible hclient hserver hgranted htoServer
      htoClient hanswer hkind hdecode hcapabilities hevents =>
    cases hnext.symm.trans htoClient
    have hknown : response.capabilities &&& kKnownCapabilities = granted supported hello := by
      rw [hcapabilities, granted, granted_known]
    have hrequested : response.capabilities &&& kKnownCapabilities &&&
        ~~~(p.client.requestedCapabilities &&& kKnownCapabilities) = 0 := by
      rw [hknown, granted, hgreeted.requested, granted_requested]
    obtain ⟨result, haccepts⟩ := controlClient_welcomed hclient.role hclient.phase hanswer.valid
      hanswer.answers hkind hdecode hrequested
    exact ⟨_, result, haccepts, .active (hgreeted.congr rfl rfl) hcompatible hknown hgranted
      (.idle ⟨hclient.role, rfl, rfl⟩ hserver htoServer hevents), hanswer.settles rfl⟩
  | refused hgreeted hincompatible hclient hserver htoServer htoClient hanswer hkind =>
    cases hnext.symm.trans htoClient
    obtain ⟨result, haccepts⟩ := controlClient_refused hclient.role hclient.phase hanswer.valid
      hanswer.answers hkind
    exact ⟨_, result, haccepts, .closed (hgreeted.congr rfl rfl) hincompatible
      ⟨hclient.role, rfl, rfl⟩ hserver htoServer rfl, hanswer.settles rfl⟩
  | active hgreeted hcompatible hclient hserver hexchange =>
    obtain ⟨m, result, haccepts, hexchange', hsettles, hnegotiated, hrequested⟩ :=
      hexchange.clientGets hclient hnext
    exact ⟨m, result, haccepts, .active (hgreeted.congr rfl hrequested) hcompatible
      (hnegotiated.trans hclient) hserver hexchange', hsettles⟩

/-! ## The invariant is calm -/

theorem Control.unpoisoned (h : Control supported p) :
    p.client.phase ≠ .poisoned ∧ p.server.phase ≠ .poisoned := by
  have hphases {roleC roleS : ConnectionRole} {phaseC phaseS : ConnectionPhase} {c v : Bool}
      (hclient : p.client.Is roleC phaseC c) (hserver : p.server.Is roleS phaseS v)
      (hc : phaseC ≠ .poisoned) (hv : phaseS ≠ .poisoned) :
      p.client.phase ≠ .poisoned ∧ p.server.phase ≠ .poisoned :=
    ⟨hclient.phase ▸ hc, hserver.phase ▸ hv⟩
  cases h with
  | initial hclient hserver | greeting _ hclient hserver | deciding _ hclient hserver
  | welcomed _ _ hclient hserver | refused _ _ hclient hserver | closed _ _ hclient hserver =>
    exact hphases hclient hserver nofun nofun
  | active _ _ _ _ hexchange =>
    cases hexchange with
    | idle hclient hserver | asked hclient hserver | serving hclient hserver
    | answered hclient hserver => exact hphases hclient hserver nofun nofun

theorem Control.negotiated (h : Control supported p) (hc : p.client.phase = .active) :
    p.client.negotiatedCapabilities =
        p.client.requestedCapabilities &&& supported &&& kKnownCapabilities ∧
      p.server.negotiatedCapabilities = p.client.negotiatedCapabilities := by
  cases h with
  | initial hclient | greeting _ hclient | deciding _ hclient | welcomed _ _ hclient
  | refused _ _ hclient | closed _ _ hclient => exact absurd (hclient.phase.symm.trans hc) nofun
  | active hgreeted _ hclient hserver =>
    rw [hclient, hserver, hgreeted.requested]
    exact ⟨rfl, rfl⟩

theorem Control.outstanding (h : Control supported p) : p.outstanding ≤ 1 := by
  cases h with
  | initial _ hserver _ _ htoServer htoClient | greeting _ _ hserver _ htoServer htoClient
  | deciding _ _ hserver _ _ _ _ htoServer htoClient | closed _ _ _ hserver htoServer htoClient =>
    simp [Pair.outstanding, hserver.pending, htoServer, htoClient]
  | welcomed _ _ _ hserver _ htoServer htoClient hanswer _ _ _ hevents =>
    simp [Pair.outstanding, hserver.pending, htoServer, htoClient, hanswer.response,
      events_notResponse hevents]
  | refused _ _ _ hserver htoServer htoClient hanswer =>
    simp [Pair.outstanding, hserver.pending, htoServer, htoClient, hanswer.response]
  | active _ _ _ _ hexchange =>
    cases hexchange with
    | idle _ hserver htoServer hevents | asked _ hserver htoServer _ _ _ _ _ hevents
    | serving _ hserver _ htoServer hevents =>
      simp [Pair.outstanding, hserver.pending, htoServer, events_notResponse hevents]
    | answered _ hserver htoServer htoClient hanswer hbefore hafter =>
      simp [Pair.outstanding, hserver.pending, htoServer, htoClient, hanswer.response,
        List.filter_append, events_notResponse hbefore, events_notResponse hafter]

theorem control_calm (supported : UInt32) : Calm supported (Control supported) where
  unpoisoned := Control.unpoisoned
  negotiated := fun h hc _ => h.negotiated hc
  outstanding := Control.outstanding
  clientSends := Control.clientSends
  serverSends := Control.serverSends
  serverGets := Control.serverGets
  clientGets := Control.clientGets

/-! ## The end of an incompatible conversation -/

/-- The server's answer to a HELLO that it does not speak the version of. -/
def mismatchFrame (requestId : UInt32) : FrameView where
  header := { kind := .errorResponse, requestId, payloadLength := 6 }
  payload := .of [2, 0, 0, 0, 0, 0]

theorem mismatchFrame_valid (requestId : UInt32) :
    validateFrameView (mismatchFrame requestId) = .ok () := rfl

/-- The server can answer. -/
theorem controlServer_refuses (hserver : m.Is .controlServer .handshake true)
    (hincompatible : m.helloCompatible = false) (hheader : HelloHeader m.pendingHeader) :
    (m.processOutbound (mismatchFrame m.pendingHeader.requestId)).2.isOk = true := by
  have hanswers : m.answersPending (mismatchFrame m.pendingHeader.requestId).header = true := by
    simp [answersPending, validateResponseToRequest, mismatchFrame, hserver.pending, hheader.major,
      hheader.minor, hheader.kind, hheader.type, isEventMessage, Except.isOk, Except.toBool]
  have hdecode : decodeErrorResponsePayload (mismatchFrame m.pendingHeader.requestId).payload =
      .ok ⟨.versionMismatch, []⟩ := rfl
  rw [processOutbound, process_of_valid (by rw [hserver.phase]; rintro ⟨⟩)
    (by rw [hserver.phase]; rintro ⟨⟩)
    (mismatchFrame_valid _), hserver.role]
  simp only [processControlServer, hserver.phase, hanswers, hincompatible, hdecode]
  rfl

/-- After a HELLO there is one that every later state remembers. -/
theorem Control.greeted (h : Control supported p) (hsent : p.clientSent = frame :: rest) :
    ∃ hello, Greeted p hello ∧ decodeHelloRequestPayload frame.payload = .ok hello := by
  have hfirst {hello : HelloRequestPayload} (hgreeted : Greeted p hello) :
      ∃ hello, Greeted p hello ∧ decodeHelloRequestPayload frame.payload = .ok hello := by
    obtain ⟨first, others, hfirst, hdecode⟩ := hgreeted.sent
    cases hfirst.symm.trans hsent
    exact ⟨hello, hgreeted, hdecode⟩
  cases h with
  | initial _ _ _ hnone => exact absurd (hnone.symm.trans hsent) nofun
  | greeting hgreeted | deciding hgreeted | welcomed hgreeted | refused hgreeted | closed hgreeted
  | active hgreeted => exact hfirst hgreeted

theorem Greeted.unique {hello' : HelloRequestPayload} (h : Greeted p hello)
    (h' : Greeted p hello') : hello' = hello := by
  obtain ⟨frame, rest, hsent, hdecode⟩ := h.sent
  obtain ⟨frame', rest', hsent', hdecode'⟩ := h'.sent
  cases hsent.symm.trans hsent'
  cases hdecode.symm.trans hdecode'
  rfl

/-- Where the conversation can be when the versions do not fit. -/
inductive Mismatch (p : Pair) : Prop
  | greeting (hclient : p.client.phase = .handshake) (hserver : p.server.phase = .initial)
      (hflight : p.toServer ≠ [])
  | deciding (hclient : p.client.phase = .handshake) (hserver : p.server.phase = .handshake)
      (hanswer : ∃ frame, (p.server.processOutbound frame).2.isOk = true)
  | refused (hclient : p.client.phase = .handshake) (hserver : p.server.phase = .closed)
      (hflight : p.toClient ≠ [])
  | closed (hclient : p.client.phase = .closed) (hserver : p.server.phase = .closed)

theorem Control.mismatch (h : Control supported p) (hgreeted : Greeted p hello)
    (hincompatible : includesProtocolV1 hello = false) : Mismatch p := by
  cases h with
  | initial _ _ _ hnone =>
    obtain ⟨frame, rest, hsent, -⟩ := hgreeted.sent
    exact absurd (hnone.symm.trans hsent) nofun
  | greeting _ hclient hserver _ htoServer =>
    exact .greeting hclient.phase hserver.phase (by rw [htoServer]; nofun)
  | deciding hgreeted' hclient hserver hcompatible _ _ hhello =>
    rw [hgreeted.unique hgreeted'] at hcompatible
    exact .deciding hclient.phase hserver.phase
      ⟨_, controlServer_refuses hserver (hcompatible.trans hincompatible) hhello⟩
  | refused _ _ hclient hserver _ htoClient =>
    exact .refused hclient.phase hserver.phase (by rw [htoClient]; nofun)
  | closed _ _ hclient hserver => exact .closed hclient.phase hserver.phase
  | welcomed hgreeted' hcompatible | active hgreeted' hcompatible =>
    rw [hgreeted.unique hgreeted', hincompatible] at hcompatible
    cases hcompatible

theorem Mismatch.inactive (h : Mismatch p) : p.client.phase ≠ .active ∧
    p.server.phase ≠ .active := by
  cases h with
  | greeting hclient hserver | deciding hclient hserver | refused hclient hserver
  | closed hclient hserver =>
    rw [hclient, hserver]
    exact ⟨nofun, nofun⟩

/-- When nothing more can happen, both have closed. -/
theorem Mismatch.quiet {s : Pair} (h : Mismatch p) (hs : Shadows p s) (hquiet : s.Quiet)
    (hunpoisoned : s.server.phase ≠ .poisoned) :
    s.server.phase = .closed ∧ (s.client.phase ≠ .poisoned → s.client.phase = .closed) := by
  have hserver := hs.server_eq hunpoisoned
  cases h with
  | greeting _ _ hflight => exact absurd (hs.toServer.symm.trans hquiet.toServer) hflight
  | deciding _ _ hanswer =>
    obtain ⟨frame, hframe⟩ := hanswer
    rw [← hserver, hquiet.server frame] at hframe
    cases hframe
  | refused _ _ hflight => exact absurd (hs.toClient.symm.trans hquiet.toClient) hflight
  | closed hc hv =>
    refine ⟨hserver ▸ hv, fun hunpoisoned => ?_⟩
    rw [hs.client_eq hunpoisoned]
    exact hc

end

/-- **A control pair agrees**, after every run. -/
theorem control_agreement (supported : UInt32) (acts : List Act) :
    ((control supported).run acts).ControlAgrees supported := by
  have hinit : Control supported (control supported) :=
    .initial ⟨rfl, rfl, rfl⟩ ⟨rfl, rfl, rfl⟩ rfl rfl rfl rfl
  obtain ⟨p, hinv, hlog, hs⟩ := (control_calm supported).run hinit rfl rfl rfl acts
  refine ⟨hs.agrees (control_calm supported) hinv hlog, fun frame rest hsent => ?_⟩
  obtain ⟨hello, hgreeted, hdecode⟩ := hinv.greeted (hs.clientSent.symm.trans hsent)
  refine ⟨hello, hdecode, fun hactive => ?_, fun hincompatible => ?_⟩
  · rw [hs.client_eq (by rw [hactive]; nofun)]
    exact hgreeted.requested
  · have hmismatch := hinv.mismatch hgreeted hincompatible
    refine ⟨fun hactive => ?_, fun hactive => ?_, hmismatch.quiet hs⟩
    · rw [hs.client_eq (by rw [hactive]; nofun)] at hactive
      exact hmismatch.inactive.1 hactive
    · rw [hs.server_eq (by rw [hactive]; nofun)] at hactive
      exact hmismatch.inactive.2 hactive

end Pair

end Px4.Ipc
