import Mathlib.Data.List.Nodup
import Px4.Control.Proof.Aside
import Px4.Ipc.Proof.Connection
import Px4.Ipc.Proof.RoundTrip

/-!
# What holds of the connections of the control server

Connections have ids of their own, there is room for all of them, and a client that waits for a
completion is one whose connection accepts no request (`Table.Holds`). A client that waits for
nothing may be answered (`Table.Answerable`), and a request that was accepted may go to a lane while
it is still to be answered (`Table.Ready`); no request has ever taken the place of another one.

* `server_receives`, `Client.Waits.event`: what frames do to a connection that waits.
* `Table.Holds.change`, `Table.Holds.remove`, `Table.Holds.addClient`, `Table.Holds.addStream`: what
  may become of the connections.
-/

namespace Px4.Control

open Ipc Lib ConnectionStateMachine

/-! ## One connection -/

/-- A client that waits for a completion accepts no request: its request is still to be answered, or
it is at its end. -/
structure Client.Waits (c : Client) : Prop where
  role : c.state.role = .controlServer
  busy : c.outstanding.isSome = true →
    c.state.phase = .active ∧ c.state.pending = true ∨ c.state.phase = .closed ∨
    c.state.phase = .poisoned

/-- A frame that comes to a server: no request comes while another one waits for its answer. -/
theorem server_receives {m m' : ConnectionStateMachine} {frame : FrameView}
    {result : ConnectionResult} (hrole : m.role = .controlServer)
    (h : m.processInbound frame = (m', .ok result)) :
    m'.role = .controlServer ∧ m.phase ≠ .closed ∧ m.phase ≠ .poisoned ∧
      ¬(m.phase = .active ∧ m.pending = true) ∧
      (result.event = .requestAccepted → m'.phase = .active ∧ m'.pending = true) := by
  obtain ⟨hrole', hclosed, hpoisoned, -⟩ := process_ok h
  refine ⟨hrole'.trans hrole, hclosed, hpoisoned, ?_⟩
  rw [ConnectionStateMachine.processInbound, process_of_valid hclosed hpoisoned
    (process_valid h), hrole] at h
  unfold ConnectionStateMachine.processControlServer at h
  dsimp only at h
  split at h
  next hphase =>
    split at h
    · cases h
    split at h
    · cases h
    · cases h
      refine ⟨fun hactive => by simp [hphase] at hactive, fun hevent => ?_⟩
      dsimp only at hevent
      split at hevent
      · cases hevent
      · cases hevent
  next =>
    rw [Bool.not_false, Bool.true_or, if_pos rfl] at h
    cases h
  next hinitial hhandshake =>
    have hphase : m.phase = .active := by
      cases hp : m.phase <;> simp_all
    rw [Bool.not_false, if_pos rfl] at h
    split at h
    · cases h
    next hrequest =>
      simp only [Bool.or_eq_true, not_or, Bool.not_eq_true] at hrequest
      split at h
      · cases h
      · cases h
        exact ⟨fun hactive => by simp [hrequest.1.1] at hactive, fun _ => ⟨hphase, rfl⟩⟩

/-- A frame that is refused ends the connection, if it has not ended before. -/
theorem refused {m m' : ConnectionStateMachine} {frame : FrameView} {outbound : Bool} {e : Error}
    (h : m.process frame outbound = (m', .error e)) :
    m'.role = m.role ∧ (m'.phase = .closed ∨ m'.phase = .poisoned) := by
  obtain ⟨rfl, hphase⟩ | ⟨hphase, hrole, -⟩ := process_error h
  · exact ⟨rfl, hphase⟩
  · exact ⟨hrole, .inr hphase⟩

/-- The role of a connection does not change. -/
theorem process_role (m : ConnectionStateMachine) (frame : FrameView) (outbound : Bool) :
    (m.process frame outbound).1.role = m.role := by
  rcases h : m.process frame outbound with ⟨m', e | result⟩
  · exact (refused h).1
  · exact (process_ok h).1

/-- **An event** does not answer a request. -/
theorem Client.Waits.event {c : Client} (h : c.Waits) {frame : FrameView}
    (hkind : frame.header.kind = .event) :
    Client.Waits { c with state := (c.state.processOutbound frame).1 } := by
  rcases hout : c.state.processOutbound frame with ⟨m', e | result⟩
  · obtain ⟨hrole, hphase⟩ := refused hout
    exact ⟨hrole.trans h.role, fun _ => .inr hphase⟩
  · have hnot (hanswers : c.state.answersPending frame.header = true) : False := by
      simp [ConnectionStateMachine.answersPending, hkind] at hanswers
    cases controlServer_sends h.role hout with
    | welcome _ hanswers => exact (hnot hanswers).elim
    | refusal _ hanswers => exact (hnot hanswers).elim
    | event => exact h
    | response _ hanswers => exact (hnot hanswers).elim

/-- The frame that is sent has the header that it was given. -/
theorem framed_kind {type : MessageType} {kind : MessageKind} {requestId : UInt32}
    {payload : List UInt8} {room : Nat} {frame : FrameView} {bytes : List UInt8}
    (h : framed type kind requestId payload room = .ok (frame, bytes)) :
    frame.header.kind = kind := by
  unfold framed at h
  dsimp only at h
  rcases hencode : encodeFrame
    { type, kind, requestId, payloadLength := .ofNat payload.length } (.of payload)
    ⟨true, room⟩ with e | w
  · rw [hencode] at h
    cases h
  · rw [hencode] at h
    have hdecode := decodeFrame_encodeFrame hencode
    change (decodeFrame (.of w) >>= fun frame => Pure.pure (frame, w)) = _ at h
    rw [hdecode] at h
    cases h
    rfl

/-! ## All connections -/

/-- The ids of the connections. -/
def Table.ids (t : Table) : List UInt64 := t.clients.map (·.id) ++ t.streams

/-- What holds of the connections, apart from the state of one client. -/
structure Table.Holds (skip : Option UInt64) (t : Table) : Prop where
  nodup : t.ids.Nodup
  old : t.exhausted = false → ∀ id ∈ t.ids, id < t.nextId
  clients : t.clients.length ≤ kMaxControlConnections
  streams : t.streams.length ≤ kMaxStreamConnections
  roles : ∀ c ∈ t.clients, c.state.role = .controlServer
  waits : ∀ c ∈ t.clients, some c.id ≠ skip → c.Waits
  running : t.complete = false
  single : t.replaced = false

namespace Table

variable {t t' : Table} {skip skip' : Option UInt64} {id : UInt64} {f : Client → Client}

/-- A change of a client. -/
def change (id : UInt64) (f : Client → Client) (t : Table) : Table :=
  { t with clients := t.clients.map fun c => if c.id = id then f c else c }

/-- The client waits for nothing. -/
def Free (id : UInt64) (t : Table) : Prop := ∀ c ∈ t.clients, c.id = id → c.outstanding = none

/-- A request of the client is still to be answered. -/
def Accepted (id : UInt64) (t : Table) : Prop :=
  ∀ c ∈ t.clients, c.id = id → c.state.phase = .active ∧ c.state.pending = true

/-- The client may get an answer. -/
structure Answerable (id : UInt64) (t : Table) : Prop where
  holds : t.Holds (some id)
  free : t.Free id

/-- A request of the client is to be answered, or given to a lane. -/
structure Ready (id : UInt64) (t : Table) : Prop where
  answerable : t.Answerable id
  accepted : t.Accepted id

/-- A request that is recorded now takes the place of none. -/
theorem Ready.not_replaces (h : t.Ready id) :
    (t.replaced || t.clients.any fun c => c.id == id && c.outstanding.isSome) = t.replaced := by
  have hnone : (t.clients.any fun c => c.id == id && c.outstanding.isSome) = false := by
    rw [List.any_eq_false]
    intro c hc hbusy
    rw [Bool.and_eq_true, beq_iff_eq] at hbusy
    rw [h.answerable.free c hc hbusy.1] at hbusy
    exact Bool.false_ne_true hbusy.2
  rw [hnone, Bool.or_false]

theorem Holds.weaken (h : t.Holds none) : t.Holds skip :=
  { h with waits := fun c hc _ => h.waits c hc (Option.some_ne_none _) }

theorem Holds.answerable (h : t.Holds none) (hfree : t.Free id) : t.Answerable id :=
  ⟨h.weaken, hfree⟩

/-- A client that waits for nothing may accept a request. -/
theorem Answerable.connected (h : t.Answerable id) : t.Holds none := by
  refine { h.holds with waits := fun c hc _ => ?_ }
  by_cases hid : c.id = id
  · refine ⟨h.holds.roles c hc, fun hbusy => ?_⟩
    rw [h.free c hc hid] at hbusy
    cases hbusy
  · exact h.holds.waits c hc (by simpa using hid)

/-- There is one client with an id. -/
theorem Holds.unique (h : t.Holds skip) {c d : Client} (hc : c ∈ t.clients) (hd : d ∈ t.clients)
    (hid : c.id = d.id) :
    c = d := List.inj_on_of_nodup_map h.nodup.of_append_left hc hd hid

/-- **A change of a client** keeps what holds, if it keeps the id and the role, and leaves a client
that waits. -/
theorem Holds.change (h : t.Holds skip)
    (hf : ∀ c ∈ t.clients, c.id = id → (f c).id = id ∧ (f c).state.role = .controlServer ∧
      (some id ≠ skip' → (f c).Waits))
    (hskip : ∀ j, j ≠ id → some j ≠ skip' → some j ≠ skip) : (t.change id f).Holds skip' := by
  have hids : (t.change id f).ids = t.ids := by
    refine congrArg (· ++ t.streams) ((List.map_map ..).trans (List.map_congr_left fun c hc => ?_))
    dsimp only [Function.comp]
    split
    next hid => exact (hf c hc hid).1.trans hid.symm
    next => rfl
  refine ⟨hids ▸ h.nodup, fun hex => hids ▸ h.old hex, ?_, h.streams, fun c' hc' => ?_,
    fun c' hc' hne => ?_, h.running, h.single⟩
  · exact (List.length_map _).trans_le h.clients
  · obtain ⟨c, hc, rfl⟩ := List.mem_map.1 hc'
    split
    next hid => exact (hf c hc hid).2.1
    next => exact h.roles c hc
  · obtain ⟨c, hc, rfl⟩ := List.mem_map.1 hc'
    split at hne
    next hid =>
      obtain ⟨hid', -, hwaits⟩ := hf c hc hid
      rw [hid'] at hne
      rw [if_pos hid]
      exact hwaits hne
    next hid =>
      rw [if_neg hid]
      exact h.waits c hc (hskip c.id hid hne)

theorem Free.change (hf : ∀ c ∈ t.clients, c.id = id → (f c).outstanding = none) :
    (t.change id f).Free id := by
  intro c' hc' hid'
  obtain ⟨c, hc, rfl⟩ := List.mem_map.1 hc'
  split at hid'
  next hid =>
    rw [if_pos hid]
    exact hf c hc hid
  next hid => exact (hid hid').elim

/-- A client goes. -/
def removeClient (id : UInt64) (t : Table) : Table :=
  { t with clients := t.clients.eraseP (·.id == id) }

/-- A stream connection goes. -/
def removeStream (id : UInt64) (t : Table) : Table := { t with streams := t.streams.erase id }

/-- **Connections that go** leave the others. -/
theorem Holds.remove (h : t.Holds skip) {clients : List Client} {streams : List UInt64}
    (hclients : clients.Sublist t.clients) (hstreams : streams.Sublist t.streams) :
    Holds skip { t with clients, streams } := by
  have hids : (ids { t with clients, streams }).Sublist t.ids := (hclients.map _).append hstreams
  exact ⟨h.nodup.sublist hids, fun hex id hid => h.old hex id (hids.subset hid),
    hclients.length_le.trans h.clients,
    hstreams.length_le.trans h.streams, fun c hc => h.roles c (hclients.subset hc),
    fun c hc => h.waits c (hclients.subset hc), h.running, h.single⟩

theorem Holds.removeClient (h : t.Holds skip) : (t.removeClient id).Holds skip :=
  h.remove List.eraseP_sublist (.refl _)

theorem Holds.removeStream (h : t.Holds skip) : (t.removeStream id).Holds skip :=
  h.remove (.refl _) List.erase_sublist

/-- The ids for new connections, after one was taken. -/
def advance (t : Table) : Table :=
  if t.nextId = 0xffffffffffffffff then { t with exhausted := true }
    else { t with nextId := t.nextId + 1 }

@[simp] theorem advance_clients (t : Table) : t.advance.clients = t.clients := by
  unfold advance
  split <;> rfl

@[simp] theorem advance_streams (t : Table) : t.advance.streams = t.streams := by
  unfold advance
  split <;> rfl

@[simp] theorem advance_complete (t : Table) : t.advance.complete = t.complete := by
  unfold advance
  split <;> rfl

@[simp] theorem advance_replaced (t : Table) : t.advance.replaced = t.replaced := by
  unfold advance
  split <;> rfl

/-- An id that was taken is not given again. -/
theorem Holds.advance_old (h : t.Holds skip) (hex : t.exhausted = false)
    (hadvance : t.advance.exhausted = false) :
    t.nextId < t.advance.nextId ∧ ∀ id ∈ t.ids, id < t.advance.nextId := by
  unfold advance at hadvance ⊢
  split at hadvance
  · cases hadvance
  next hnext =>
    rw [if_neg hnext]
    have hlt : t.nextId < t.nextId + 1 := by
      rw [UInt64.lt_iff_toNat_lt, UInt64.toNat_add]
      have hne : t.nextId.toNat ≠ 0xffffffffffffffff := fun h => hnext (UInt64.toNat_inj.1 h)
      have := t.nextId.toNat_lt
      have hone : (1 : UInt64).toNat = 1 := rfl
      omega
    exact ⟨hlt, fun id hid => UInt64.lt_trans (h.old hex id hid) hlt⟩

/-- The id for a new connection is new. -/
theorem Holds.fresh (h : t.Holds skip) (hex : t.exhausted = false) : t.nextId ∉ t.ids :=
  fun hmem => UInt64.lt_irrefl _ (h.old hex _ hmem)

theorem Holds.advance (h : t.Holds skip) (hex : t.exhausted = false) : t.advance.Holds skip := by
  have hids : t.advance.ids = t.ids := by simp [ids]
  refine ⟨hids ▸ h.nodup, fun hadvance id hid => (h.advance_old hex hadvance).2 id (hids ▸ hid),
    ?_, ?_, ?_, ?_, ?_,
    ?_⟩
  · simpa using h.clients
  · simpa using h.streams
  · simpa using h.roles
  · simpa using h.waits
  · simpa using h.running
  · simpa using h.single

/-- **A new client.** -/
theorem Holds.addClient (h : t.Holds skip) (hex : t.exhausted = false)
    (hroom : t.clients.length < kMaxControlConnections) :
    Holds skip { t.advance with clients := t.clients ++ [{ id := t.nextId }] } := by
  have hids : List.Perm (ids { t.advance with clients := t.clients ++ [{ id := t.nextId }] })
    (t.nextId :: t.ids) := by
    simp only [ids, advance_streams, List.map_append, List.map_cons,
      List.map_nil, List.append_assoc,
      List.singleton_append]
    exact List.perm_middle
  refine ⟨hids.nodup_iff.2 (List.nodup_cons.2 ⟨h.fresh hex, h.nodup⟩), fun hadvance id hid =>
    ?_, ?_, ?_, ?_, ?_, ?_,
    ?_⟩
  · obtain ⟨hnew, hold⟩ := h.advance_old hex hadvance
    obtain rfl | hid := List.mem_cons.1 (hids.mem_iff.1 hid)
    · exact hnew
    · exact hold id hid
  · simpa using Nat.succ_le_of_lt hroom
  · simpa using h.streams
  · intro c hc
    obtain hc | hc := List.mem_append.1 hc
    · exact h.roles c hc
    · rw [List.mem_singleton.1 hc]
      rfl
  · intro c hc hne
    obtain hc | hc := List.mem_append.1 hc
    · exact h.waits c hc hne
    · rw [List.mem_singleton.1 hc]
      exact ⟨rfl, by simp⟩
  · simpa using h.running
  · simpa using h.single

/-- **A new stream connection.** -/
theorem Holds.addStream (h : t.Holds skip) (hex : t.exhausted = false)
    (hroom : t.streams.length < kMaxStreamConnections) :
    Holds skip { t.advance with streams := t.streams ++ [t.nextId] } := by
  have hids : List.Perm (ids { t.advance with streams := t.streams ++ [t.nextId] })
    (t.nextId :: t.ids) := by
    simp only [ids, advance_clients, ← List.append_assoc]
    exact List.perm_append_singleton _ _
  refine ⟨hids.nodup_iff.2 (List.nodup_cons.2 ⟨h.fresh hex, h.nodup⟩), fun hadvance id hid =>
    ?_, ?_, ?_, ?_, ?_, ?_,
    ?_⟩
  · obtain ⟨hnew, hold⟩ := h.advance_old hex hadvance
    obtain rfl | hid := List.mem_cons.1 (hids.mem_iff.1 hid)
    · exact hnew
    · exact hold id hid
  · simpa using h.clients
  · simpa using Nat.succ_le_of_lt hroom
  · simpa using h.roles
  · simpa using h.waits
  · simpa using h.running
  · simpa using h.single

end Table

/-- It holds of a server. -/
def Server.Connected (skip : Option UInt64) (s : Server) : Prop := s.table.Holds skip

end Px4.Control
