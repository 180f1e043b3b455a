import Mathlib.Data.List.Forall2
import Px4.Lib.Run
import Px4.Ipc.Proof.Connection

/-!
# Pairs and their shadows

A machine that its own rejected frame has poisoned does nothing more, and the frames that are
delivered to it are lost. So a pair is compared with its shadow, in which a rejected frame is not
tried: the channels and what was sent are the same, and a machine of the pair is that of the shadow
or poisoned (`Shadows`).

An invariant of the shadow is `Calm`: it is kept by what is sent, and what is delivered is accepted.
`Calm.agrees`: then the pair agrees (`Pair.Agrees`) after every run.
-/

namespace Px4.Ipc

open ConnectionStateMachine

namespace Pair

/-! ## Steps -/

section

variable (s : Pair) (m : ConnectionStateMachine) (frame : FrameView) (rest : List FrameView)

def clientSends : Pair :=
  { s with client := m, toServer := s.toServer ++ [frame], clientSent := s.clientSent ++ [frame] }

def serverSends : Pair :=
  { s with server := m, toClient := s.toClient ++ [frame], serverSent := s.serverSent ++ [frame] }

def serverGets : Pair := { s with server := m, toServer := rest }

def clientGets : Pair :=
  { s with client := m, toClient := rest, clientReceived := s.clientReceived ++ [frame] }

end

/-- What a step can do. -/
inductive Moves (s : Pair) : Act → Pair → Prop
  | clientSends {frame : FrameView} {m : ConnectionStateMachine} {result : ConnectionResult}
      (h : s.client.processOutbound frame = (m, .ok result)) :
    Moves s (.clientSend frame) (s.clientSends m frame)
  | clientRejects {frame : FrameView} {m : ConnectionStateMachine} {e : Error}
      (h : s.client.processOutbound frame = (m, .error e)) :
    Moves s (.clientSend frame) { s with client := m }
  | serverSends {frame : FrameView} {m : ConnectionStateMachine} {result : ConnectionResult}
      (h : s.server.processOutbound frame = (m, .ok result)) :
    Moves s (.serverSend frame) (s.serverSends m frame)
  | serverRejects {frame : FrameView} {m : ConnectionStateMachine} {e : Error}
      (h : s.server.processOutbound frame = (m, .error e)) :
    Moves s (.serverSend frame) { s with server := m }
  | serverIdle (hempty : s.toServer = []) : Moves s .toServer s
  | serverGets {frame : FrameView} {rest : List FrameView} (hnext : s.toServer = frame :: rest) :
    Moves s .toServer (s.serverGets (s.server.processInbound frame).1 rest)
  | clientIdle (hempty : s.toClient = []) : Moves s .toClient s
  | clientGets {frame : FrameView} {rest : List FrameView} {m : ConnectionStateMachine}
      {result : ConnectionResult} (hnext : s.toClient = frame :: rest)
      (h : s.client.processInbound frame = (m, .ok result)) :
    Moves s .toClient (s.clientGets m frame rest)
  | clientRefuses {frame : FrameView} {rest : List FrameView}
      {m : ConnectionStateMachine} {e : Error}
      (hnext : s.toClient = frame :: rest) (h : s.client.processInbound frame = (m, .error e)) :
    Moves s .toClient { s with client := m, toClient := rest }

theorem step_moves (s : Pair) (act : Act) : Moves s act (s.step act) := by
  cases act with
  | clientSend frame =>
    rw [step]
    split
    next h => exact .clientSends h
    next h => exact .clientRejects h
  | serverSend frame =>
    rw [step]
    split
    next h => exact .serverSends h
    next h => exact .serverRejects h
  | toServer =>
    rw [step]
    split
    next hempty => exact .serverIdle hempty
    next hnext => exact .serverGets hnext
  | toClient =>
    rw [step]
    split
    next hempty => exact .clientIdle hempty
    next hnext =>
      split
      next h => exact .clientGets hnext h
      next h => exact .clientRefuses hnext h

/-! ## Calm invariants -/

/-- The client's pending request after a frame: answered by a response, else as it was. -/
def Settles (p : Pair) (m : ConnectionStateMachine) (frame : FrameView) : Prop :=
  if frame.isResponse then p.client.answersPending frame.header = true ∧ m.pending = false
  else m.pending = p.client.pending ∧ m.pendingHeader = p.client.pendingHeader

/-- An invariant of pairs that are not poisoned: sending keeps it, deliveries are accepted and keep
it, and it gives what the parties agree on. -/
structure Calm (supported : UInt32) (Inv : Pair → Prop) : Prop where
  unpoisoned : ∀ {p}, Inv p → p.client.phase ≠ .poisoned ∧ p.server.phase ≠ .poisoned
  negotiated : ∀ {p}, Inv p → p.client.phase = .active → p.server.phase = .active →
    p.client.negotiatedCapabilities =
        p.client.requestedCapabilities &&& supported &&& kKnownCapabilities ∧
      p.server.negotiatedCapabilities = p.client.negotiatedCapabilities
  outstanding : ∀ {p}, Inv p → p.outstanding ≤ 1
  clientSends : ∀ {p frame m result}, Inv p → p.client.processOutbound frame = (m, .ok result) →
    Inv (p.clientSends m frame) ∧ p.client.pending = false ∧ m.pending = true ∧
      m.pendingHeader = frame.header
  serverSends : ∀ {p frame m result}, Inv p → p.server.processOutbound frame = (m, .ok result) →
    Inv (p.serverSends m frame)
  serverGets : ∀ {p frame rest}, Inv p → p.toServer = frame :: rest →
    ∃ m result, p.server.processInbound frame = (m, .ok result) ∧ Inv (p.serverGets m rest)
  clientGets : ∀ {p frame rest}, Inv p → p.toClient = frame :: rest →
    ∃ m result, p.client.processInbound frame = (m, .ok result) ∧
      Inv (p.clientGets m frame rest) ∧ Settles p m frame

/-! ## Answers -/

/-- The responses that the client has accepted answer the requests it has sent; the request that is
left is the pending one. -/
structure Logged (p : Pair) : Prop where
  answered : List.Forall₂ (fun request response =>
      validateResponseToRequest request.header response.header = .ok ())
    (p.clientSent.take p.responses.length) p.responses
  idle : p.client.pending = false → p.clientSent.length = p.responses.length
  pending : p.client.pending = true → ∃ before request, p.clientSent = before ++ [request] ∧
    before.length = p.responses.length ∧ request.header = p.client.pendingHeader

section

variable {p : Pair} {m : ConnectionStateMachine} {frame : FrameView} {rest : List FrameView}

theorem Logged.clientSends (h : Logged p) (hidle : p.client.pending = false)
    (hpending : m.pending = true) (hheader : m.pendingHeader = frame.header) :
    Logged (p.clientSends m frame) := by
  have hlength := h.idle hidle
  refine ⟨?_, fun hm => ?_, fun _ => ⟨p.clientSent, frame, rfl, hlength, hheader.symm⟩⟩
  · show List.Forall₂ _ ((p.clientSent ++ [frame]).take p.responses.length) p.responses
    rw [List.take_append_of_le_length (by omega)]
    exact h.answered
  · exact absurd (hpending.symm.trans hm) nofun

theorem validateResponse_of_answers {header : FrameHeader} (h : m.answersPending header = true) :
    m.pending = true ∧ validateResponseToRequest m.pendingHeader header = .ok () := by
  simp only [answersPending, Bool.and_eq_true] at h
  refine ⟨h.1.1, ?_⟩
  cases hvalidate : validateResponseToRequest m.pendingHeader header with
  | ok => rfl
  | error e =>
    rw [hvalidate] at h
    cases h.2

theorem Logged.clientAnswered (h : Logged p) (hresponse : frame.isResponse = true)
    (hanswers : p.client.answersPending frame.header = true) (hidle : m.pending = false) :
    Logged (p.clientGets m frame rest) := by
  obtain ⟨hpending, hvalidate⟩ := validateResponse_of_answers hanswers
  obtain ⟨before, request, hsent, hlength, hheader⟩ := h.pending hpending
  have hresponses : (p.clientGets m frame rest).responses = p.responses ++ [frame] := by
    simp [responses, Pair.clientGets, hresponse]
  have hall : (p.clientGets m frame rest).clientSent = before ++ [request] := hsent
  refine ⟨?_, fun _ => ?_, fun hm => absurd (hidle.symm.trans hm) nofun⟩
  · rw [hresponses, hall, List.take_of_length_le (by simp [hlength])]
    have hanswered := h.answered
    rw [hsent, ← hlength, List.take_left] at hanswered
    exact List.rel_append hanswered (.cons (by rw [hheader]; exact hvalidate) .nil)
  · rw [hresponses, hall]
    simp [hlength]

theorem Logged.clientNotified (h : Logged p) (hevent : frame.isResponse = false)
    (hpending : m.pending = p.client.pending) (hheader : m.pendingHeader = p.client.pendingHeader) :
    Logged (p.clientGets m frame rest) := by
  have hresponses : (p.clientGets m frame rest).responses = p.responses := by
    simp [responses, Pair.clientGets, hevent]
  refine ⟨?_, fun hm => ?_, fun hm => ?_⟩
  · rw [hresponses]
    exact h.answered
  · rw [hresponses]
    exact h.idle (hpending.symm.trans hm)
  · rw [hresponses]
    obtain ⟨before, request, hsent, hlength, hrequest⟩ := h.pending (hpending.symm.trans hm)
    exact ⟨before, request, hsent, hlength, hrequest.trans hheader.symm⟩

theorem Logged.clientGets (h : Logged p) (hsettles : Settles p m frame) :
    Logged (p.clientGets m frame rest) := by
  unfold Settles at hsettles
  split at hsettles
  next hresponse => exact h.clientAnswered hresponse hsettles.1 hsettles.2
  next hevent => exact h.clientNotified (by simpa using hevent) hsettles.1 hsettles.2

end

/-! ## Shadows -/

/-- A pair and its shadow. -/
structure Shadows (p s : Pair) : Prop where
  client : s.client = p.client ∨ s.client.phase = .poisoned
  server : s.server = p.server ∨ s.server.phase = .poisoned ∧ s.server.pending = false
  toServer : s.toServer = p.toServer
  toClient : s.toClient = p.toClient
  clientSent : s.clientSent = p.clientSent
  serverSent : s.serverSent = p.serverSent
  received : s.clientReceived <+: p.clientReceived
  synced : s.client = p.client → s.clientReceived = p.clientReceived
  unanswered : s.clientSent.length ≤ s.responses.length + 1

section

variable {supported : UInt32} {Inv : Pair → Prop} {p s : Pair} {m : ConnectionStateMachine}
  {frame : FrameView}

theorem Shadows.client_eq (hs : Shadows p s) (h : s.client.phase ≠ .poisoned) :
    s.client = p.client :=
  hs.client.resolve_right h

theorem Shadows.server_eq (hs : Shadows p s) (h : s.server.phase ≠ .poisoned) :
    s.server = p.server :=
  hs.server.resolve_right fun hpoisoned => h hpoisoned.1

/-- A poisoned machine stays as it is. -/
theorem process_poisoned (h : m.phase = .poisoned) (frame : FrameView) (outbound : Bool) :
    m.process frame outbound = (m, .error .protocolError) := by
  rw [process, if_pos h]

/-- The shadow has sent what the pair has. -/
theorem Shadows.clientSends (hs : Shadows p s) (hclient : s.client = p.client) (hlog : Logged p)
    (hidle : p.client.pending = false) (m : ConnectionStateMachine) (frame : FrameView) :
    Shadows (p.clientSends m frame) (s.clientSends m frame) where
  client := .inl rfl
  server := hs.server
  toServer := congrArg (· ++ [frame]) hs.toServer
  toClient := hs.toClient
  clientSent := congrArg (· ++ [frame]) hs.clientSent
  serverSent := hs.serverSent
  received := hs.received
  synced := fun _ => hs.synced hclient
  unanswered := by
    have hlength := hlog.idle hidle
    have hresponses : s.responses = p.responses := by
      rw [responses, responses, hs.synced hclient]
    show (s.clientSent ++ [frame]).length ≤ s.responses.length + 1
    rw [hs.clientSent, hresponses, List.length_append, hlength]
    exact Nat.le_refl _

theorem Shadows.serverSends (hs : Shadows p s) (m : ConnectionStateMachine) (frame : FrameView) :
    Shadows (p.serverSends m frame) (s.serverSends m frame) where
  client := hs.client
  server := .inl rfl
  toServer := hs.toServer
  toClient := congrArg (· ++ [frame]) hs.toClient
  clientSent := hs.clientSent
  serverSent := congrArg (· ++ [frame]) hs.serverSent
  received := hs.received
  synced := hs.synced
  unanswered := hs.unanswered

/-- **A step of the pair** is one of its shadow, or none. -/
theorem Shadows.step (hcalm : Calm supported Inv) (hinv : Inv p)
    (hlog : Logged p) (hs : Shadows p s) (act : Act) : ∃ p', Inv p' ∧ Logged p' ∧
    Shadows p' (s.step act) := by
  obtain ⟨hclient, hserver⟩ := hcalm.unpoisoned hinv
  have hmoves := step_moves s act
  generalize s.step act = s' at hmoves
  cases hmoves with
  | @clientSends frame m _ h =>
    have heq := hs.client_eq (process_ok h).2.2.1
    rw [heq] at h
    obtain ⟨hinv', hidle, hpending, hheader⟩ := hcalm.clientSends hinv h
    exact ⟨_, hinv', hlog.clientSends hidle hpending hheader, hs.clientSends heq hlog hidle m frame⟩
  | @clientRejects frame m _ h =>
    refine ⟨p, hinv, hlog, { hs with client := ?_, synced := fun heq => ?_ }⟩
    · rcases process_error h with ⟨rfl, -⟩ | ⟨hpoisoned, -⟩
      · exact hs.client
      · exact .inr hpoisoned
    · rcases process_error h with ⟨rfl, -⟩ | ⟨hpoisoned, -⟩
      · exact hs.synced heq
      · exact absurd (heq ▸ hpoisoned) hclient
  | @serverSends frame m _ h =>
    have heq := hs.server_eq (process_ok h).2.2.1
    rw [heq] at h
    have hinv' := hcalm.serverSends hinv h
    exact ⟨_, hinv', ⟨hlog.answered, hlog.idle, hlog.pending⟩, hs.serverSends m frame⟩
  | @serverRejects frame m _ h =>
    refine ⟨p, hinv, hlog, { hs with server := ?_ }⟩
    rcases process_error h with ⟨rfl, -⟩ | ⟨hpoisoned, -, hpending⟩
    · exact hs.server
    · exact .inr ⟨hpoisoned, hpending⟩
  | serverIdle => exact ⟨p, hinv, hlog, hs⟩
  | @serverGets frame rest hnext =>
    obtain ⟨m, result, haccepts, hinv'⟩ := hcalm.serverGets hinv (hs.toServer.symm.trans hnext)
    refine ⟨_, hinv', ⟨hlog.answered, hlog.idle, hlog.pending⟩,
      { hs with server := ?_, toServer := rfl }⟩
    rcases hs.server with heq | ⟨hpoisoned, hpending⟩
    · refine .inl ?_
      show (s.server.processInbound frame).1 = m
      rw [heq, haccepts]
    · refine .inr ?_
      show (s.server.processInbound frame).1.phase = _ ∧
        (s.server.processInbound frame).1.pending = _
      rw [processInbound, process_poisoned hpoisoned]
      exact ⟨hpoisoned, hpending⟩
  | clientIdle => exact ⟨p, hinv, hlog, hs⟩
  | @clientGets frame rest m _ hnext h =>
    have heq := hs.client_eq (process_ok h).2.2.1
    obtain ⟨m', result, haccepts, hinv', hsettles⟩ :=
      hcalm.clientGets hinv (hs.toClient.symm.trans hnext)
    rw [heq, haccepts] at h
    cases h
    have hreceived : s.clientReceived ++ [frame] = p.clientReceived ++ [frame] :=
      congrArg (· ++ [frame]) (hs.synced heq)
    refine ⟨_, hinv', hlog.clientGets hsettles, ⟨.inl rfl, hs.server, hs.toServer, rfl,
      hs.clientSent, hs.serverSent, ⟨[], (List.append_nil _).trans hreceived⟩,
      fun _ => hreceived, ?_⟩⟩
    have hlength := hs.unanswered
    show s.clientSent.length ≤ ((s.clientReceived ++ [frame]).filter _).length + 1
    rw [List.filter_append, List.length_append]
    rw [responses] at hlength
    omega
  | @clientRefuses frame rest m _ hnext h =>
    obtain ⟨m', result, haccepts, hinv', hsettles⟩ :=
      hcalm.clientGets hinv (hs.toClient.symm.trans hnext)
    have hpoisoned : s.client.phase = .poisoned := by
      refine hs.client.resolve_left fun heq => ?_
      rw [heq, haccepts] at h
      cases h
    rw [processInbound, process_poisoned hpoisoned] at h
    cases h
    have hm' : m'.phase ≠ .poisoned := (process_ok haccepts).2.2.2
    refine ⟨_, hinv', hlog.clientGets hsettles, ⟨.inr hpoisoned, hs.server, hs.toServer, rfl,
      hs.clientSent, hs.serverSent, hs.received.trans (List.prefix_append ..), fun heq => ?_,
      hs.unanswered⟩⟩
    have heq : s.client = m' := heq
    exact absurd (heq ▸ hpoisoned) hm'

/-! ## Agreement -/

theorem Shadows.clientPoisoned (hcalm : Calm supported Inv) (hinv : Inv p) (hs : Shadows p s)
    (act : Act) (h : (s.step act).client.phase = .poisoned) :
    s.client.phase = .poisoned ∨ ∃ frame e, act = .clientSend frame ∧
      (s.client.processOutbound frame).2 = .error e := by
  have hmoves := step_moves s act
  generalize s.step act = s' at hmoves h
  cases hmoves with
  | clientSends hsends => exact absurd h (process_ok hsends).2.2.2
  | clientRejects hrejects => exact .inr ⟨_, _, rfl, by rw [hrejects]⟩
  | serverSends | serverRejects | serverIdle | serverGets | clientIdle => exact .inl h
  | clientGets _ hgets => exact absurd h (process_ok hgets).2.2.2
  | clientRefuses hnext hrefuses =>
    refine .inl (hs.client.resolve_left fun heq => ?_)
    obtain ⟨m, result, haccepts, -⟩ := hcalm.clientGets hinv (hs.toClient.symm.trans hnext)
    rw [heq, haccepts] at hrefuses
    cases hrefuses

theorem Shadows.serverPoisoned (hcalm : Calm supported Inv) (hinv : Inv p) (hs : Shadows p s)
    (act : Act) (h : (s.step act).server.phase = .poisoned) :
    s.server.phase = .poisoned ∨ ∃ frame e, act = .serverSend frame ∧
      (s.server.processOutbound frame).2 = .error e := by
  have hmoves := step_moves s act
  generalize s.step act = s' at hmoves h
  cases hmoves with
  | serverSends hsends => exact absurd h (process_ok hsends).2.2.2
  | serverRejects hrejects => exact .inr ⟨_, _, rfl, by rw [hrejects]⟩
  | clientSends | clientRejects | clientIdle | clientGets | clientRefuses | serverIdle =>
    exact .inl h
  | serverGets hnext =>
    refine .inl ((hs.server.resolve_left fun heq => ?_).1)
    obtain ⟨m, result, haccepts, -⟩ := hcalm.serverGets hinv (hs.toServer.symm.trans hnext)
    have h : (s.server.processInbound _).1.phase = .poisoned := h
    rw [heq, haccepts] at h
    exact (process_ok haccepts).2.2.2 h

theorem Shadows.outstanding_le (hs : Shadows p s) : s.outstanding ≤ p.outstanding := by
  unfold outstanding
  rw [hs.toServer, hs.toClient]
  rcases hs.server with heq | ⟨-, hpending⟩
  · exact Nat.le_of_eq (by rw [heq])
  · rw [hpending]
    simp

/-- **A pair with a calm shadow agrees.** -/
theorem Shadows.agrees (hcalm : Calm supported Inv) (hinv : Inv p) (hlog : Logged p)
    (hs : Shadows p s) : s.Agrees supported where
  clientPoisoned := hs.clientPoisoned hcalm hinv
  serverPoisoned := hs.serverPoisoned hcalm hinv
  negotiated := by
    intro hclient hserver
    have hc := hs.client_eq (by rw [hclient]; nofun)
    have hv := hs.server_eq (by rw [hserver]; nofun)
    rw [hc] at hclient ⊢
    rw [hv] at hserver ⊢
    exact hcalm.negotiated hinv hclient hserver
  outstanding := Nat.le_trans hs.outstanding_le (hcalm.outstanding hinv)
  pending := by
    intro frame rest hnext hresponse haccepted
    obtain ⟨m, result, -, -, hsettles⟩ := hcalm.clientGets hinv (hs.toClient.symm.trans hnext)
    rw [Settles, if_pos hresponse] at hsettles
    have heq : s.client = p.client := by
      refine hs.client_eq fun hpoisoned => ?_
      rw [processInbound, process_poisoned hpoisoned] at haccepted
      cases haccepted
    rw [heq]
    exact hsettles.1
  answered := by
    have hprefix : s.responses <+: p.responses := hs.received.filter _
    have htake := List.forall₂_take s.responses.length hlog.answered
    rw [List.take_take, Nat.min_eq_left hprefix.length_le,
      ← List.prefix_iff_eq_take.1 hprefix] at htake
    rw [hs.clientSent]
    exact htake
  unanswered := hs.unanswered

/-- **Runs**: the shadow of a pair that begins calmly stays calm. -/
theorem Calm.run (hcalm : Calm supported Inv) (hinv : Inv s) (hidle : s.client.pending = false)
    (hsent : s.clientSent = []) (hreceived : s.clientReceived = []) (acts : List Act) :
    ∃ p, Inv p ∧ Logged p ∧ Shadows p (s.run acts) := by
  have hresponses : s.responses = [] := by
    rw [responses, hreceived]
    rfl
  have hlog : Logged s := by
    refine ⟨?_, fun _ => ?_, fun hpending => ?_⟩
    · rw [hsent, hresponses]
      exact .nil
    · rw [hsent, hresponses]
    · rw [hidle] at hpending
      cases hpending
  have hs : Shadows s s := ⟨.inl rfl, .inl rfl, rfl, rfl, rfl, rfl, List.prefix_rfl, fun _ => rfl,
    by rw [hsent]; exact Nat.zero_le _⟩
  refine Lib.foldl_inv (P := fun s => ∃ p, Inv p ∧ Logged p ∧ Shadows p s) ?_ acts
    ⟨s, hinv, hlog, hs⟩
  rintro s act ⟨p, hinv, hlog, hs⟩
  exact hs.step hcalm hinv hlog act

end

end Pair

end Px4.Ipc
