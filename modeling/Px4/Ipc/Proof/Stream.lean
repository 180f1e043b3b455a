import Px4.Ipc.Proof.Control

/-!
# The stream pair

`TsState` is what a machine remembers of the transport stream, and `TsState.run` a sequence of its
events that is accepted: consecutive numbers, up to an end. The server runs through what it sends
and the client through what it gets, so the server is ahead of the client by what is on its way.

`Streaming` is where the conversation of a stream client and a stream server can be. With
`control_agreement` it gives `parties_agree`.
-/

namespace Px4.Ipc

open ConnectionStateMachine

/-! ## The transport stream -/

/-- What is remembered of a transport stream. -/
structure TsState where
  ended : Bool := false
  seen : Bool := false
  last : UInt64 := 0

namespace TsState

/-- The state after an event, if it is accepted. -/
def next (t : TsState) (frame : FrameView) : Option TsState :=
  if t.ended then none
  else if frame.header.type = .streamEnd then some { t with ended := true }
  else if frame.header.type ≠ .tsData then none
  else match decodeTsDataEventPayload frame.payload with
    | .error _ => none
    | .ok data =>
      if data.cumulativeDropCount ≠ 0 then none
      else if t.seen && (t.last == 0xffffffffffffffff || data.sequence != t.last + 1) then none
      else some { ended := false, seen := true, last := data.sequence }

/-- The state after the events, if they are accepted. -/
def run : TsState → List FrameView → Option TsState
  | t, [] => some t
  | t, frame :: rest => (t.next frame).bind (run · rest)

variable {t t' : TsState} {frame : FrameView} {frames : List FrameView}

theorem run_cons (h : t.run (frame :: frames) = some t') :
    ∃ t₁, t.next frame = some t₁ ∧ t₁.run frames = some t' :=
  Option.bind_eq_some_iff.1 h

theorem run_append (h : t.run frames = some t') {t'' : TsState} (hnext : t'.next frame = some t'') :
    t.run (frames ++ [frame]) = some t'' := by
  induction frames generalizing t with
  | nil =>
    cases h
    exact Option.bind_eq_some_iff.2 ⟨t'', hnext, rfl⟩
  | cons first frames ih =>
    obtain ⟨t₁, hfirst, hrest⟩ := run_cons h
    exact Option.bind_eq_some_iff.2 ⟨t₁, hfirst, ih hrest⟩

/-- What an event can be: the end, or data with the next number. -/
inductive Next (t : TsState) (frame : FrameView) : TsState → Prop
  | ended (hgoing : t.ended = false) (htype : frame.header.type = .streamEnd) :
    Next t frame { t with ended := true }
  | data {data : TsDataEventPayload} (hgoing : t.ended = false)
      (htype : frame.header.type = .tsData)
      (hdecode : decodeTsDataEventPayload frame.payload = .ok data)
      (hdrops : data.cumulativeDropCount = 0)
      (hsequence : t.seen = true → t.last ≠ 0xffffffffffffffff ∧ data.sequence = t.last + 1) :
    Next t frame { ended := false, seen := true, last := data.sequence }

theorem next_cases (h : t.next frame = some t') : Next t frame t' := by
  unfold next at h
  split at h
  · cases h
  next hended =>
    have hgoing : t.ended = false := by simpa using hended
    split at h
    next htype =>
      cases h
      exact .ended hgoing htype
    next =>
      split at h
      · cases h
      next htype =>
        split at h
        · cases h
        next data hdecode =>
          split at h
          · cases h
          next hdrops =>
            split at h
            · cases h
            next hsequence =>
              cases h
              refine .data hgoing (not_not.1 htype) hdecode (not_not.1 hdrops) fun hseen => ?_
              simpa [hseen] using hsequence

/-- The number is the next one, if there was one before. -/
theorem sequence_follows {seen : Bool} {last sequence : UInt64}
    (h : seen = true → last ≠ 0xffffffffffffffff ∧ sequence = last + 1) :
    (seen && (last == 0xffffffffffffffff || sequence != last + 1)) = false := by
  cases seen with
  | false => rfl
  | true =>
    obtain ⟨hmax, hnext⟩ := h rfl
    simp [hmax, hnext]

theorem next_of (h : Next t frame t') : t.next frame = some t' := by
  cases h with
  | ended hgoing htype => simp [next, hgoing, htype]
  | data hgoing htype hdecode hdrops hsequence =>
    simp [next, hgoing, htype, hdecode, hdrops, sequence_follows hsequence]

/-- The numbers of the data are consecutive. -/
theorem run_consecutive (h : t.run frames = some t') :
    ∃ first : Nat, (t.seen = true → first = t.last.toNat + 1) ∧
      ∀ i frame, (frames.filter FrameView.isTsData)[i]? = some frame →
        ∃ data, decodeTsDataEventPayload frame.payload = .ok data ∧
          data.sequence.toNat = first + i := by
  induction frames generalizing t with
  | nil => exact ⟨t.last.toNat + 1, fun _ => rfl, nofun⟩
  | cons frame frames ih =>
    obtain ⟨t₁, hnext, hrest⟩ := run_cons h
    obtain ⟨first, hfirst, hall⟩ := ih hrest
    cases next_cases hnext with
    | ended _ htype =>
      have hfilter : (frame :: frames).filter FrameView.isTsData =
          frames.filter FrameView.isTsData := by
        simp [FrameView.isTsData, htype]
      rw [hfilter]
      exact ⟨first, hfirst, hall⟩
    | @data data _ htype hdecode _ hsequence =>
      have hfilter : (frame :: frames).filter FrameView.isTsData =
          frame :: frames.filter FrameView.isTsData := by
        simp [FrameView.isTsData, htype]
      rw [hfilter]
      refine ⟨data.sequence.toNat, fun hseen => ?_, fun i other hother => ?_⟩
      · obtain ⟨hmax, heq⟩ := hsequence hseen
        have hlt : t.last.toNat + 1 < 2 ^ 64 := by
          have hne : t.last.toNat ≠ (0xffffffffffffffff : UInt64).toNat :=
            fun heq => hmax (UInt64.toNat_inj.1 heq)
          have hbound := t.last.toNat_lt
          simp only [UInt64.reduceToNat] at hne
          omega
        rw [heq, UInt64.toNat_add, UInt64.toNat_one, Nat.mod_eq_of_lt hlt]
      · cases i with
        | zero =>
          cases hother
          exact ⟨data, hdecode, rfl⟩
        | succ i =>
          obtain ⟨data', hdecode', hnumber⟩ := hall i other hother
          have hfirst : first = data.sequence.toNat + 1 := hfirst rfl
          exact ⟨data', hdecode', by omega⟩

/-- Nothing comes after the end. -/
theorem run_ended (h : t.run frames = some t') (before after : List FrameView)
    (heq : frames = before ++ frame :: after) (hend : frame.header.type = .streamEnd) :
    after = [] := by
  induction before generalizing t frames with
  | nil =>
    subst heq
    obtain ⟨t₁, hnext, hrest⟩ := run_cons h
    cases next_cases hnext with
    | ended =>
      cases after with
      | nil => rfl
      | cons other after =>
        obtain ⟨t₂, hother, -⟩ := run_cons hrest
        cases hother
    | data _ htype => exact absurd (htype.symm.trans hend) nofun
  | cons first before ih =>
    subst heq
    obtain ⟨t₁, -, hrest⟩ := run_cons h
    exact ih hrest rfl

end TsState

/-- What a machine remembers. -/
def ConnectionStateMachine.ts (m : ConnectionStateMachine) : TsState where
  ended := m.phase == .closed
  seen := m.tsSequenceSeen
  last := m.lastTsSequence

/-- A machine of a stream that has been answered. -/
structure ConnectionStateMachine.Flows (m : ConnectionStateMachine) (role : ConnectionRole) :
    Prop where
  role : m.role = role
  phase : m.phase = .active ∨ m.phase = .closed
  pending : m.pending = false
  requested : m.requestedCapabilities = 0
  negotiated : m.negotiatedCapabilities = 0

section

variable {m m' : ConnectionStateMachine} {frame : FrameView} {role : ConnectionRole} {t : TsState}
  {result : ConnectionResult}

/-- **An event of the stream**: a machine accepts what its state does. -/
theorem processTsEvent_ok (hflows : m.Flows role) (hphase : m.phase = .active)
    (htype : frame.header.type = .tsData ∨ frame.header.type = .streamEnd)
    (h : m.processTsEvent frame = (m', .ok result)) :
    m'.Flows role ∧ m'.pendingHeader = m.pendingHeader ∧ TsState.Next m.ts frame m'.ts := by
  have hgoing : m.ts.ended = false := by simp [ts, hphase]
  unfold processTsEvent at h
  dsimp only at h
  split at h
  next hend =>
    cases h
    exact ⟨{ hflows with phase := .inr rfl }, rfl, .ended hgoing hend⟩
  next hend =>
    split at h
    · cases h
    next data hdecode =>
      split at h
      · cases h
      next hdrops =>
        split at h
        · cases h
        next hsequence =>
          cases h
          refine ⟨{ hflows with }, rfl, ?_⟩
          have hts : ConnectionStateMachine.ts { m with
              lastTsSequence := data.sequence, tsSequenceSeen := true } =
              { ended := false, seen := true, last := data.sequence } := by
            simp [ts, hphase]
          rw [hts]
          refine .data hgoing (htype.resolve_right hend) hdecode (not_not.1 hdrops) fun hseen => ?_
          have hseen : m.tsSequenceSeen = true := hseen
          show m.lastTsSequence ≠ _ ∧ data.sequence = m.lastTsSequence + 1
          simpa [hseen] using hsequence

theorem processTsEvent_of_next (hflows : m.Flows role) (h : TsState.Next m.ts frame t) :
    ∃ m' result, m.processTsEvent frame = (m', .ok result) ∧ m'.ts = t := by
  unfold processTsEvent
  cases h with
  | ended _ htype =>
    rw [if_pos htype]
    exact ⟨_, _, rfl, rfl⟩
  | @data data hgoing htype hdecode hdrops hsequence =>
    have hphase : m.phase = .active := by
      refine hflows.phase.resolve_right fun hclosed => ?_
      simp [ts, hclosed] at hgoing
    have hnumber : (m.tsSequenceSeen && (m.lastTsSequence == 0xffffffffffffffff ||
        data.sequence != m.lastTsSequence + 1)) = false := TsState.sequence_follows hsequence
    simp only [htype, hdecode, hdrops, hnumber, ne_eq, not_true_eq_false, if_false]
    refine ⟨_, _, rfl, ?_⟩
    simp [ts, hphase]

end

/-! ## Where the conversation can be -/

/-- A machine of a stream that has not been answered. -/
structure ConnectionStateMachine.Fresh (m : ConnectionStateMachine) (role : ConnectionRole)
    (phase : ConnectionPhase) (pending : Bool) : Prop extends m.Is role phase pending where
  requested : m.requestedCapabilities = 0
  negotiated : m.negotiatedCapabilities = 0
  seen : m.tsSequenceSeen = false
  last : m.lastTsSequence = 0

namespace Pair

/-- An event of the stream. -/
structure StreamFrame (frame : FrameView) : Prop where
  valid : validateFrameView frame = .ok ()
  kind : frame.header.kind = .event
  type : frame.header.type = .tsData ∨ frame.header.type = .streamEnd

/-- The answer to the request of the stream. -/
structure Reply (frame : FrameView) : Prop where
  response : frame.isResponse = true
  type : isEventMessage frame.header.type = false

/-- Where the conversation can be. -/
inductive Streaming (p : Pair) : Prop
  | initial (hclient : p.client.Fresh .streamClient .initial false)
      (hserver : p.server.Fresh .streamServer .initial false) (hsent : p.serverSent = [])
      (htoServer : p.toServer = []) (htoClient : p.toClient = [])
  | attaching {frame : FrameView} (hclient : p.client.Fresh .streamClient .handshake true)
      (hserver : p.server.Fresh .streamServer .initial false) (hsent : p.serverSent = [])
      (htoServer : p.toServer = [frame]) (htoClient : p.toClient = [])
      (hvalid : validateFrameView frame = .ok ()) (hkind : frame.header.kind = .request)
      (htype : frame.header.type = .attachStream) (hheader : p.client.pendingHeader = frame.header)
  | deciding (hclient : p.client.Fresh .streamClient .handshake true)
      (hserver : p.server.Fresh .streamServer .handshake true)
      (hheader : p.server.pendingHeader = p.client.pendingHeader) (hsent : p.serverSent = [])
      (htoServer : p.toServer = []) (htoClient : p.toClient = [])
  | refused {frame : FrameView} (hclient : p.client.Fresh .streamClient .handshake true)
      (hserver : p.server.Is .streamServer .closed false) (hsent : p.serverSent = [frame])
      (htoServer : p.toServer = []) (htoClient : p.toClient = [frame])
      (hanswer : Answer p.client frame) (hkind : frame.header.kind ≠ .response)
  | closed {frame : FrameView} (hclient : p.client.Is .streamClient .closed false)
      (hserver : p.server.Is .streamServer .closed false) (hsent : p.serverSent = [frame])
      (hreply : Reply frame) (htoServer : p.toServer = []) (htoClient : p.toClient = [])
  | accepted {frame : FrameView} {events : List FrameView}
      (hclient : p.client.Fresh .streamClient .handshake true)
      (hserver : p.server.Flows .streamServer) (hsent : p.serverSent = frame :: events)
      (htoServer : p.toServer = []) (htoClient : p.toClient = frame :: events)
      (hanswer : Answer p.client frame) (hkind : frame.header.kind = .response)
      (hevents : ∀ frame ∈ events, StreamFrame frame)
      (hts : TsState.run {} events = some p.server.ts)
  | flowing {frame : FrameView} {events : List FrameView} (hclient : p.client.Flows .streamClient)
      (hserver : p.server.Flows .streamServer) (hsent : p.serverSent = frame :: events)
      (hreply : Reply frame) (hts : TsState.run {} events = some p.server.ts)
      (htoServer : p.toServer = []) (hevents : ∀ frame ∈ p.toClient, StreamFrame frame)
      (hahead : p.client.ts.run p.toClient = some p.server.ts)

/-! ## Steps -/

section

variable {supported : UInt32} {p : Pair} {m : ConnectionStateMachine} {frame : FrameView}
  {rest : List FrameView} {result : ConnectionResult}

theorem Answer.reply (h : Answer m frame) : Reply frame := by
  refine ⟨h.response, ?_⟩
  have hvalidate := (validateResponse_of_answers h.answers).2
  unfold validateResponseToRequest at hvalidate
  split at hvalidate
  · cases hvalidate
  next hfields =>
    simp only [Bool.or_eq_true, bne_iff_ne, not_or, not_not] at hfields
    rw [← hfields.1.2]
    simpa using hfields.1.1.1.1.1.1

theorem StreamFrame.notResponse (h : StreamFrame frame) : frame.isResponse = false := by
  simp [FrameView.isResponse, h.kind]

theorem streamFrames_append (h : ∀ e ∈ rest, StreamFrame e) (hframe : StreamFrame frame) :
    ∀ e ∈ rest ++ [frame], StreamFrame e := by
  intro e he
  rcases List.mem_append.1 he with he | he
  · exact h e he
  · rw [List.mem_singleton.1 he]
    exact hframe

theorem Streaming.clientSends (h : Streaming p)
    (hsends : p.client.processOutbound frame = (m, .ok result)) :
    Streaming (p.clientSends m frame) ∧ p.client.pending = false ∧ m.pending = true ∧
      m.pendingHeader = frame.header := by
  have hvalid := process_valid hsends
  have hrole : p.client.role = .streamClient := by
    cases h with
    | initial hclient | attaching hclient | deciding hclient | refused hclient | accepted hclient =>
      exact hclient.role
    | closed hclient => exact hclient.role
    | flowing hclient => exact hclient.role
  obtain ⟨hphase, hkind, htype, rfl⟩ := streamClient_sends hrole hsends
  cases h with
  | initial hclient hserver hsent htoServer htoClient =>
    have htoServer' : p.toServer ++ [frame] = [frame] := by rw [htoServer, List.nil_append]
    exact ⟨.attaching { hclient with phase := rfl, pending :=
      rfl } hserver hsent htoServer' htoClient
      hvalid hkind htype rfl, hclient.pending, rfl, rfl⟩
  | attaching hclient | deciding hclient | refused hclient | accepted hclient =>
    exact absurd (hclient.phase.symm.trans hphase) nofun
  | closed hclient => exact absurd (hclient.phase.symm.trans hphase) nofun
  | flowing hclient =>
    rcases hclient.phase with hactive | hclosed
    · exact absurd (hactive.symm.trans hphase) nofun
    · exact absurd (hclosed.symm.trans hphase) nofun

theorem Streaming.serverSends (h : Streaming p)
    (hsends : p.server.processOutbound frame = (m, .ok result)) :
    Streaming (p.serverSends m frame) := by
  have hvalid := process_valid hsends
  have hrole : p.server.role = .streamServer := by
    cases h with
    | initial _ hserver | attaching _ hserver | deciding _ hserver => exact hserver.role
    | refused _ hserver | closed _ hserver => exact hserver.role
    | accepted _ hserver | flowing _ hserver => exact hserver.role
  have hcases := streamServer_sends hrole hsends
  have hflowing (hserver : p.server.Flows .streamServer) : m.Flows .streamServer ∧
      StreamFrame frame ∧ p.server.ts.next frame = some m.ts := by
    cases hcases with
    | answer hphase =>
      rcases hserver.phase with hactive | hclosed
      · exact absurd (hactive.symm.trans hphase) nofun
      · exact absurd (hclosed.symm.trans hphase) nofun
    | event hphase hkind htype result heq =>
      obtain ⟨hflows, -, hnext⟩ := processTsEvent_ok hserver hphase htype heq
      exact ⟨hflows, ⟨hvalid, hkind, htype⟩, TsState.next_of hnext⟩
  cases h with
  | initial _ hserver | attaching _ hserver =>
    cases hcases with
    | answer hphase | event hphase => exact absurd (hserver.phase.symm.trans hphase) nofun
  | refused _ hserver | closed _ hserver =>
    cases hcases with
    | answer hphase | event hphase => exact absurd (hserver.phase.symm.trans hphase) nofun
  | deciding hclient hserver hheader hsent htoServer htoClient =>
    cases hcases with
    | event hphase => exact absurd (hserver.phase.symm.trans hphase) nofun
    | answer _ hanswers heq =>
      have hsent' : p.serverSent ++ [frame] = [frame] := by rw [hsent, List.nil_append]
      have htoClient' : p.toClient ++ [frame] = [frame] := by rw [htoClient, List.nil_append]
      rw [answersPending_congr (hserver.pending.trans hclient.pending.symm) hheader] at hanswers
      by_cases hkind : frame.header.kind = .response
      · rw [if_pos hkind] at heq
        subst heq
        refine .accepted hclient ⟨hserver.role, .inl rfl, rfl, hserver.requested,
          hserver.negotiated⟩
          hsent' htoServer htoClient' ⟨hvalid, hanswers⟩ hkind nofun ?_
        show some _ = some (TsState.mk false p.server.tsSequenceSeen p.server.lastTsSequence)
        rw [hserver.seen, hserver.last]
      · rw [if_neg hkind] at heq
        subst heq
        exact .refused hclient ⟨hserver.role, rfl, rfl⟩ hsent' htoServer htoClient'
          ⟨hvalid, hanswers⟩
          hkind
  | @accepted answer events hclient hserver hsent htoServer htoClient hanswer hkind hevents hts =>
    obtain ⟨hflows, hframe, hnext⟩ := hflowing hserver
    have hsent' : p.serverSent ++ [frame] = answer :: (events ++ [frame]) := by
      rw [hsent, List.cons_append]
    have htoClient' : p.toClient ++ [frame] = answer :: (events ++ [frame]) := by
      rw [htoClient, List.cons_append]
    exact .accepted hclient hflows hsent' htoServer htoClient' hanswer hkind
      (streamFrames_append hevents hframe) (TsState.run_append hts hnext)
  | @flowing answer events hclient hserver hsent hreply hts htoServer hevents hahead =>
    obtain ⟨hflows, hframe, hnext⟩ := hflowing hserver
    have hsent' : p.serverSent ++ [frame] = answer :: (events ++ [frame]) := by
      rw [hsent, List.cons_append]
    exact .flowing hclient hflows hsent' hreply (TsState.run_append hts hnext) htoServer
      (streamFrames_append hevents hframe) (TsState.run_append hahead hnext)

/-- **What is delivered to the server** is accepted. -/
theorem Streaming.serverGets (h : Streaming p) (hnext : p.toServer = frame :: rest) :
    ∃ m result, p.server.processInbound frame = (m, .ok result) ∧
      Streaming (p.serverGets m rest) := by
  cases h with
  | attaching hclient hserver hsent htoServer htoClient hvalid hkind htype hheader =>
    cases htoServer.symm.trans hnext
    obtain ⟨result, haccepts⟩ := streamServer_attached hserver.role hserver.phase hvalid hkind htype
    exact ⟨_, result, haccepts, .deciding hclient { hserver with phase := rfl, pending := rfl }
      hheader.symm hsent rfl htoClient⟩
  | initial _ _ _ htoServer | deciding _ _ _ _ htoServer | refused _ _ _ htoServer
  | closed _ _ _ _ htoServer | accepted _ _ _ htoServer | flowing _ _ _ _ _ htoServer =>
    exact absurd (htoServer.symm.trans hnext) nofun

/-- **What is delivered to the client** is accepted. -/
theorem Streaming.clientGets (h : Streaming p) (hnext : p.toClient = frame :: rest) :
    ∃ m result, p.client.processInbound frame = (m, .ok result) ∧
      Streaming (p.clientGets m frame rest) ∧ Settles p m frame := by
  cases h with
  | initial _ _ _ _ htoClient | attaching _ _ _ _ htoClient | deciding _ _ _ _ _ htoClient
  | closed _ _ _ _ _ htoClient => cases htoClient.symm.trans hnext
  | refused hclient hserver hsent htoServer htoClient hanswer hkind =>
    cases hnext.symm.trans htoClient
    obtain ⟨result, haccepts⟩ := streamClient_answered hclient.role hclient.phase hanswer.valid
      hanswer.answers
    rw [if_neg hkind] at haccepts
    exact ⟨_, result, haccepts,
      .closed ⟨hclient.role, rfl, rfl⟩ hserver hsent hanswer.reply htoServer
      rfl, hanswer.settles rfl⟩
  | accepted hclient hserver hsent htoServer htoClient hanswer hkind hevents hts =>
    cases hnext.symm.trans htoClient
    obtain ⟨result, haccepts⟩ := streamClient_answered hclient.role hclient.phase hanswer.valid
      hanswer.answers
    rw [if_pos hkind] at haccepts
    refine ⟨_, result, haccepts, .flowing ⟨hclient.role, .inl rfl, rfl, hclient.requested,
      hclient.negotiated⟩ hserver hsent hanswer.reply hts htoServer hevents ?_, hanswer.settles rfl⟩
    show TsState.run (TsState.mk false p.client.tsSequenceSeen p.client.lastTsSequence) rest = _
    rw [hclient.seen, hclient.last]
    exact hts
  | flowing hclient hserver hsent hreply hts htoServer hevents hahead =>
    rw [hnext] at hevents hahead
    obtain ⟨hframe, hevents⟩ := List.forall_mem_cons.1 hevents
    obtain ⟨t, hstep, hahead⟩ := TsState.run_cons hahead
    have hstep := TsState.next_cases hstep
    obtain ⟨m, result, haccepts, hm⟩ := processTsEvent_of_next hclient hstep
    have hphase : p.client.phase = .active := by
      refine hclient.phase.resolve_right fun hclosed => ?_
      cases hstep with
      | ended hgoing | data hgoing => simp [ts, hclosed] at hgoing
    obtain ⟨hflows, hheader, -⟩ := processTsEvent_ok hclient hphase hframe.type haccepts
    rw [← streamClient_event hclient.role hphase hframe.valid hframe.kind hframe.type] at haccepts
    refine ⟨m, result, haccepts, .flowing hflows hserver hsent hreply hts htoServer hevents ?_, ?_⟩
    · show m.ts.run rest = _
      rw [hm]
      exact hahead
    · rw [Settles, if_neg (by rw [hframe.notResponse]; rintro ⟨⟩)]
      exact ⟨hflows.pending.trans hclient.pending.symm, hheader⟩

/-! ## The invariant is calm -/

theorem Streaming.unpoisoned (h : Streaming p) :
    p.client.phase ≠ .poisoned ∧ p.server.phase ≠ .poisoned := by
  have hflows {m : ConnectionStateMachine} {role : ConnectionRole} (hm : m.Flows role) :
      m.phase ≠ .poisoned := by
    rcases hm.phase with hphase | hphase
    · rw [hphase]
      nofun
    · rw [hphase]
      nofun
  have his {m : ConnectionStateMachine} {role : ConnectionRole} {phase : ConnectionPhase}
      {pending : Bool} (hm : m.Is role phase pending) (hphase : phase ≠ .poisoned) :
      m.phase ≠ .poisoned := hm.phase ▸ hphase
  cases h with
  | initial hclient hserver | attaching hclient hserver | deciding hclient hserver =>
    exact ⟨his hclient.toIs nofun, his hserver.toIs nofun⟩
  | refused hclient hserver => exact ⟨his hclient.toIs nofun, his hserver nofun⟩
  | closed hclient hserver => exact ⟨his hclient nofun, his hserver nofun⟩
  | accepted hclient hserver => exact ⟨his hclient.toIs nofun, hflows hserver⟩
  | flowing hclient hserver => exact ⟨hflows hclient, hflows hserver⟩

/-- A stream negotiates nothing. -/
theorem Streaming.negotiated (h : Streaming p) (hc : p.client.phase = .active) :
    p.client.negotiatedCapabilities =
        p.client.requestedCapabilities &&& supported &&& kKnownCapabilities ∧
      p.server.negotiatedCapabilities = p.client.negotiatedCapabilities := by
  cases h with
  | initial hclient | attaching hclient | deciding hclient | refused hclient | accepted hclient =>
    exact absurd (hclient.phase.symm.trans hc) nofun
  | closed hclient => exact absurd (hclient.phase.symm.trans hc) nofun
  | flowing hclient hserver =>
    rw [hclient.negotiated, hclient.requested, hserver.negotiated, UInt32.zero_and, UInt32.zero_and]
    exact ⟨rfl, rfl⟩

theorem Streaming.outstanding (h : Streaming p) : p.outstanding ≤ 1 := by
  have hnone {frames : List FrameView} (hevents : ∀ frame ∈ frames, StreamFrame frame) :
      frames.filter FrameView.isResponse = [] := by
    rw [List.filter_eq_nil_iff]
    intro frame hframe
    rw [(hevents frame hframe).notResponse]
    nofun
  cases h with
  | initial _ hserver _ htoServer htoClient | attaching _ hserver _ htoServer htoClient
  | deciding _ hserver _ _ htoServer htoClient =>
    simp [Pair.outstanding, hserver.pending, htoServer, htoClient]
  | refused _ hserver _ htoServer htoClient hanswer =>
    simp [Pair.outstanding, hserver.pending, htoServer, htoClient, hanswer.response]
  | closed _ hserver _ _ htoServer htoClient =>
    simp [Pair.outstanding, hserver.pending, htoServer, htoClient]
  | accepted _ hserver _ htoServer htoClient hanswer _ hevents =>
    simp [Pair.outstanding, hserver.pending, htoServer, htoClient, hanswer.response, hnone hevents]
  | flowing _ hserver _ _ _ htoServer hevents =>
    simp [Pair.outstanding, hserver.pending, htoServer, hnone hevents]

/-- The conversation, and that the client has accepted what is no longer on its way. -/
structure StreamInv (p : Pair) : Prop where
  streaming : Streaming p
  received : p.serverSent = p.clientReceived ++ p.toClient

theorem stream_calm (supported : UInt32) : Calm supported StreamInv where
  unpoisoned := fun h => h.streaming.unpoisoned
  negotiated := fun h hc _ => h.streaming.negotiated hc
  outstanding := fun h => h.streaming.outstanding
  clientSends := by
    intro p frame m result h hsends
    obtain ⟨hstreaming, hpending⟩ := h.streaming.clientSends hsends
    exact ⟨⟨hstreaming, h.received⟩, hpending⟩
  serverSends := by
    intro p frame m result h hsends
    refine ⟨h.streaming.serverSends hsends, ?_⟩
    show p.serverSent ++ [frame] = p.clientReceived ++ (p.toClient ++ [frame])
    rw [h.received, List.append_assoc]
  serverGets := by
    intro p frame rest h hnext
    obtain ⟨m, result, haccepts, hstreaming⟩ := h.streaming.serverGets hnext
    exact ⟨m, result, haccepts, hstreaming, h.received⟩
  clientGets := by
    intro p frame rest h hnext
    obtain ⟨m, result, haccepts, hstreaming, hsettles⟩ := h.streaming.clientGets hnext
    refine ⟨m, result, haccepts, ⟨hstreaming, ?_⟩, hsettles⟩
    show p.serverSent = p.clientReceived ++ [frame] ++ rest
    rw [h.received, hnext, List.append_assoc, List.singleton_append]

/-! ## What the server has sent -/

/-- The server sends its answer, and then a run of the stream. -/
theorem Streaming.sent (h : Streaming p) : p.serverSent = [] ∨ ∃ frame events t,
    p.serverSent = frame :: events ∧ Reply frame ∧ TsState.run {} events = some t := by
  cases h with
  | initial _ _ hsent | attaching _ _ hsent | deciding _ _ _ hsent => exact .inl hsent
  | refused _ _ hsent _ _ hanswer => exact .inr ⟨_, [], {}, hsent, hanswer.reply, rfl⟩
  | closed _ _ hsent hreply => exact .inr ⟨_, [], {}, hsent, hreply, rfl⟩
  | accepted _ _ hsent _ _ hanswer _ _ hts => exact .inr ⟨_, _, _, hsent, hanswer.reply, hts⟩
  | flowing _ _ hsent hreply hts => exact .inr ⟨_, _, _, hsent, hreply, hts⟩

theorem Streaming.consecutive (h : Streaming p) : ∃ first : Nat, ∀ i frame,
    (p.serverSent.filter FrameView.isTsData)[i]? = some frame →
      ∃ data, decodeTsDataEventPayload frame.payload = .ok data ∧
        data.sequence.toNat = first + i := by
  rcases h.sent with hsent | ⟨answer, events, t, hsent, hreply, hts⟩
  · rw [hsent]
    exact ⟨0, by rintro _ _ ⟨⟩⟩
  · obtain ⟨first, -, hall⟩ := TsState.run_consecutive hts
    have hfilter : p.serverSent.filter FrameView.isTsData = events.filter FrameView.isTsData := by
      have htype := hreply.type
      simp only [isEventMessage, Bool.or_eq_false_iff] at htype
      rw [hsent, List.filter_cons_of_neg (by rw [FrameView.isTsData, htype.1.1]; rintro ⟨⟩)]
    rw [hfilter]
    exact ⟨first, hall⟩

theorem Streaming.ended (h : Streaming p) {before after : List FrameView}
    (heq : p.serverSent = before ++ frame :: after) (hend : frame.header.type = .streamEnd) :
    after = [] := by
  rcases h.sent with hsent | ⟨answer, events, t, hsent, hreply, hts⟩
  · rw [hsent] at heq
    exact absurd heq.symm (by simp)
  · rw [hsent] at heq
    cases before with
    | nil =>
      cases heq
      have htype := hreply.type
      rw [hend] at htype
      cases htype
    | cons first before =>
      cases heq
      exact TsState.run_ended hts before after rfl hend

end

/-- A stream pair agrees, after every run. -/
theorem stream_agreement (supported : UInt32) (acts : List Act) :
    ((stream supported).run acts).StreamAgrees supported := by
  have hinit : StreamInv (stream supported) :=
    ⟨.initial ⟨⟨rfl, rfl, rfl⟩, rfl, rfl, rfl, rfl⟩
      ⟨⟨rfl, rfl, rfl⟩, rfl, rfl, rfl, rfl⟩ rfl rfl rfl, rfl⟩
  obtain ⟨p, hinv, hlog, hs⟩ := (stream_calm supported).run hinit rfl rfl rfl acts
  generalize (stream supported).run acts = s at hs
  have hreceived : s.clientReceived <+: s.serverSent := by
    rw [hs.serverSent, hinv.received]
    exact hs.received.trans (List.prefix_append ..)
  refine ⟨hs.agrees (stream_calm supported) hinv hlog, hreceived.filter _, ?_, ?_⟩
  · rw [hs.serverSent]
    exact hinv.streaming.consecutive
  · rintro before frame after (heq | heq) hend
    · exact hinv.streaming.ended (hs.serverSent.symm.trans heq) hend
    · obtain ⟨rest, hrest⟩ := hreceived
      rw [heq, List.append_assoc, List.cons_append] at hrest
      have hnone := hinv.streaming.ended (hs.serverSent.symm.trans hrest.symm) hend
      exact (List.append_eq_nil_iff.1 hnone).1

/-- **The parties agree**: a control pair and a stream pair, after every run. -/
theorem parties_agree (supported : UInt32) (acts : List Act) :
    ((control supported).run acts).ControlAgrees supported ∧
      ((stream supported).run acts).StreamAgrees supported :=
  ⟨control_agreement supported acts, stream_agreement supported acts⟩

end Pair

end Px4.Ipc
