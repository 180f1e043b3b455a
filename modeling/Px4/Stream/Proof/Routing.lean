import Px4.Stream.Routing
import Px4.Stream.Epoch
import Px4.Ts.Proof.Sink

/-!
# Tag routing

The sync bytes that the bridge is programmed with, the tag arithmetic of the demultiplexer and the
tag table of the data plane belong together: on every board they send a packet to the receiver whose
port wrote its sync byte (`board_ok`, a fact about the tables of all models). A locked
demultiplexer takes a stream of whole packets one at a time (`reach_packets`), so each of them is
delivered as the registers say.

* `tag_routing`: every model, every bridge, every stream of packets.
-/

namespace Px4.Stream

open Px4.Device Px4.It930x

/-! ## What the registers say -/

/-- The local receiver whose packets start with `x`. -/
def programmedFor (regs : Nat → UInt8) (layout : BoardLayout) (model : DeviceModel) (x : UInt8) :
    Option Nat :=
  (List.range (streamInputs layout model).length).find? fun receiver =>
    syncOf regs layout model receiver = some x

/-- The packet with the sync byte of a transport stream. -/
def Packet.retag (packet : Packet) : Packet :=
  ⟨packet.bytes.set 0 0x47, by rw [List.length_set]; exact packet.size_eq⟩

/-- The first byte of a packet. -/
def Packet.sync (packet : Packet) : UInt8 := packet.bytes.headD 0

/-- Where a packet belongs: to the receiver it is programmed for; a packet that differs from one by
its error bit is only counted there. -/
def routed (regs : Nat → UInt8) (layout : BoardLayout) (model : DeviceModel) (base : Nat)
    (packet : Packet) : Option Delivery :=
  match programmedFor regs layout model packet.sync with
  | some receiver => some (.packet (base + receiver) packet.retag)
  | none =>
    if packet.sync &&& 0x80 = 0 then none
    else (programmedFor regs layout model (packet.sync &&& 0x7f)).map fun receiver =>
      .wireTei (base + receiver)

/-! ## The tables -/

/-- The mode of the demultiplexer of a layout. -/
def demuxConfig (plane : StreamLayout) : Ts.Config := ⟨UInt8.ofNat plane.tagCount, plane.plainTs⟩

/-- The receiver a tag table gives a tag. -/
def mapped (plane : StreamLayout) (tag : Nat) : Option Nat :=
  let entry := plane.tagToReceiver.getD tag (-1)
  if entry < 0 then none else some entry.toNat

/-- The receiver for which `wire_tag_observer` counts. -/
def observedFor (plane : StreamLayout) (x : UInt8) : Option Nat :=
  if x &&& 0x80 = 0 then none
  else
    let tag := ((x >>> 4) &&& 0x07).toNat
    if tag = 0 ∨ tag > plane.tagCount then none else mapped plane (tag - 1)

/-- The receiver in a table of sync bytes. -/
def inTable (table : List UInt8) (x : UInt8) : Option Nat :=
  (List.range table.length).find? fun receiver => table[receiver]? = some x

/-- One sync byte, seen by the demultiplexer and by the table of the registers. -/
def byteOk (table : List UInt8) (plane : StreamLayout) (x : UInt8) : Bool :=
  !(demuxConfig plane).boundary x ||
    match (demuxConfig plane).receiver? x with
    | some tag =>
      decide (tag < plane.tagCount) && x &&& 0x80 == 0 && mapped plane tag == inTable table x
    | none =>
      (inTable table x).isNone &&
        observedFor plane x == if x &&& 0x80 = 0 then none else inTable table (x &&& 0x7f)

/-- The sync bytes of a board, by receiver. -/
def syncTable (layout : BoardLayout) (model : DeviceModel) : List UInt8 :=
  (streamInputs layout model).map StreamInput.syncByte

/-- The tables of one board. -/
structure BoardOk (layout : BoardLayout) (model : DeviceModel) (plane : StreamLayout) : Prop where
  byte : ∀ x, byteOk (syncTable layout model) plane x = true
  positive : 0 < plane.tagCount
  clamp : plane.tagCount ≤ 7
  /-- every receiver has a sync byte of its own -/
  own : ∀ receiver < plane.receiversPerBridge,
    ((syncTable layout model)[receiver]?).any (fun x =>
      (demuxConfig plane).boundary x && inTable (syncTable layout model) x == some receiver) = true

theorem forall_uint8 {P : UInt8 → Prop} (h : ∀ n : Fin 256, P (UInt8.ofFin n)) : ∀ x, P x := by
  intro x
  exact h x.toFin

/-- **The tables of every supported model fit together.** -/
theorem board_ok (model : DeviceModel) :
    ∃ layout plane, initializeLayout model = .ok layout ∧ createLayout model = .ok plane ∧
      BoardOk layout model plane := by
  cases model
  all_goals
    refine ⟨_, _, rfl, rfl, ⟨forall_uint8 ?_, ?_, ?_, ?_⟩⟩ <;> decide +kernel

/-- A configured bridge has the sync bytes of its board in its registers. -/
theorem syncOf_configured {model : DeviceModel} {layout : BoardLayout} {bus bus' : Bus}
    (hinit : initializeLayout model = .ok layout)
    (h : configureStreamInputs bus layout model = (bus', .ok ())) (receiver : Nat) :
    syncOf bus'.value layout model receiver = (syncTable layout model)[receiver]? := by
  have hregs := Lib.Faulty.writeAll_ok h
  have hmap : (streamInputs layout model).map (fun input =>
      bus'.value (streamSyncPort0 + input.port.toNat)) = syncTable layout model := by
    rw [hregs]
    cases model <;> cases hinit <;> rfl
  rw [← hmap, List.getElem?_map]
  rfl

theorem programmedFor_configured {model : DeviceModel} {layout : BoardLayout} {bus bus' : Bus}
    (hinit : initializeLayout model = .ok layout)
    (h : configureStreamInputs bus layout model = (bus', .ok ())) (x : UInt8) :
    programmedFor bus'.value layout model x = inTable (syncTable layout model) x := by
  have hlen : (streamInputs layout model).length = (syncTable layout model).length := by
    rw [syncTable, List.length_map]
  unfold programmedFor inTable
  rw [hlen]
  congr 1
  funext receiver
  rw [decide_eq_decide, syncOf_configured hinit h]

/-! ## Streams of packets -/

/-- What the parser does with a whole packet. -/
def packetEvent (cfg : Ts.Config) (packet : Packet) : Ts.Event :=
  match cfg.receiver? packet.sync with
  | some receiver => .packet receiver packet.retag.bytes
  | none => .skipped packet.sync

theorem packet_head (packet : Packet) (rest : List UInt8) :
    (packet.bytes ++ rest).headD 0 = packet.sync := by
  obtain ⟨bytes, hsize⟩ := packet
  cases bytes with
  | nil => cases hsize
  | cons x bytes => rfl

/-- A locked parser takes a packet that starts with a sync byte. -/
theorem refStep_packet {cfg : Ts.Config} {packet : Packet} (rest : List UInt8)
    (hb : cfg.boundary packet.sync = true) :
    Ts.refStep cfg true (packet.bytes ++ rest) = some (true, rest, [packetEvent cfg packet]) := by
  have hlen : packet.bytes.length = Ts.kPacketSize := packet.size_eq
  rw [Ts.refStep_locked cfg (by rw [List.length_append]; omega), packet_head, if_pos hb,
    List.drop_left' hlen, List.take_left' hlen]
  unfold packetEvent
  cases cfg.receiver? packet.sync <;> rfl

/-- **A locked parser takes a stream of packets** one at a time. -/
theorem reach_packets {cfg : Ts.Config} (rest : List UInt8) : ∀ (packets : List Packet),
    (∀ packet ∈ packets, cfg.boundary packet.sync = true) →
    (Ts.reference cfg).Reach true (bytesOf packets ++ rest)
    (packets.map (packetEvent cfg)) true rest
  | [], _ => .refl _ _
  | packet :: packets, h => by
    have hstep : (Ts.reference cfg).step true (packet.bytes ++ (bytesOf packets ++ rest)) =
        some (true, bytesOf packets ++ rest, [packetEvent cfg packet]) :=
      refStep_packet _ (h packet List.mem_cons_self)
    have ih := reach_packets rest packets fun p hp => h p (List.mem_cons_of_mem _ hp)
    have hbytes : bytesOf (packet :: packets) ++ rest =
        packet.bytes ++ (bytesOf packets ++ rest) := by
      rw [bytesOf, List.flatMap_cons, List.append_assoc]
      rfl
    rw [hbytes]
    exact .step hstep ih

/-! ## Deliveries -/

section
variable {σ : Type} (deliver : σ → Delivery → σ) {model : DeviceModel} {layout : BoardLayout}
  {plane : StreamLayout} {regs : Nat → UInt8}

/-- An optional delivery. -/
def deliver? (context : σ) : Option Delivery → σ
  | some delivery => deliver context delivery
  | none => context

theorem packetSink_mapped {base tag : Nat} {packet : Packet} (htag : tag < plane.tagCount)
    (context : σ) :
    packetSink deliver plane base context tag packet.bytes =
      (deliver? deliver context ((mapped plane tag).map fun r => .packet (base + r) packet),
        .ok ()) := by
  unfold packetSink mapped
  rw [dif_pos ⟨htag, packet.size_eq⟩]
  dsimp only
  split <;> rfl

theorem wireTagObserver_observed {base : Nat} (x : UInt8) (context : σ) :
    wireTagObserver deliver plane base context x =
      deliver? deliver context ((observedFor plane x).map fun r => .wireTei (base + r)) := by
  unfold wireTagObserver observedFor mapped
  split
  · rfl
  · dsimp only
    split
    · rfl
    · by_cases h : plane.tagToReceiver.getD (((x >>> 4) &&& 0x07).toNat - 1) (-1) < 0
      · rw [if_pos h, if_neg (by omega)]
        rfl
      · rw [if_neg h, if_pos (by omega)]
        rfl

/-- **One packet** goes where the registers say. -/
theorem effect_routed (hok : BoardOk layout model plane)
    (hregs : ∀ x, programmedFor regs layout model x = inTable (syncTable layout model) x)
    (base : Nat) {packet : Packet} (hb : (demuxConfig plane).boundary packet.sync = true)
    (context : σ) :
    ((packetEvent (demuxConfig plane) packet).effect?.toList).foldl
        (Ts.applyEffect (packetSink deliver plane base) (wireTagObserver deliver plane base))
        context =
      deliver? deliver context (routed regs layout model base packet) := by
  have hbyte := hok.byte packet.sync
  unfold byteOk at hbyte
  rw [hb, Bool.not_true, Bool.false_or] at hbyte
  unfold packetEvent routed
  rw [hregs, hregs]
  cases hr : (demuxConfig plane).receiver? packet.sync with
  | some tag =>
    rw [hr] at hbyte
    simp only [Bool.and_eq_true, decide_eq_true_eq, beq_iff_eq] at hbyte
    obtain ⟨⟨htag, h80⟩, hmap⟩ := hbyte
    show (packetSink deliver plane base context tag packet.retag.bytes).1 = _
    rw [packetSink_mapped deliver htag, hmap]
    cases inTable (syncTable layout model) packet.sync with
    | some receiver => rfl
    | none => simp [h80]
  | none =>
    rw [hr] at hbyte
    simp only [Bool.and_eq_true, Option.isNone_iff_eq_none, beq_iff_eq] at hbyte
    obtain ⟨hnone, hobs⟩ := hbyte
    rw [hnone]
    dsimp only [Ts.Event.effect?]
    by_cases h80 : packet.sync &&& 0x80 = 0
    · rw [if_neg (not_not.2 h80), if_pos h80]
      rfl
    · rw [if_pos h80, if_neg h80]
      rw [if_neg h80] at hobs
      show wireTagObserver deliver plane base context packet.sync = _
      rw [wireTagObserver_observed, hobs]

/-- The effects of a stream of packets are their deliveries, in order. -/
theorem effects_routed (hok : BoardOk layout model plane)
    (hregs : ∀ x, programmedFor regs layout model x = inTable (syncTable layout model) x)
    (base : Nat) : ∀ (packets : List Packet) (context : σ),
    (∀ packet ∈ packets, (demuxConfig plane).boundary packet.sync = true) →
    ((packets.map (packetEvent (demuxConfig plane))).filterMap Ts.Event.effect?).foldl
        (Ts.applyEffect (packetSink deliver plane base) (wireTagObserver deliver plane base))
        context =
      (packets.filterMap (routed regs layout model base)).foldl deliver context
  | [], _, _ => rfl
  | packet :: packets, context, h => by
    have hone := effect_routed deliver hok hregs base (h packet List.mem_cons_self) context
    have ih := effects_routed hok hregs base packets
      (deliver? deliver context (routed regs layout model base packet))
      fun p hp => h p (List.mem_cons_of_mem _ hp)
    rw [← hone] at ih
    have hsplit : ((packet :: packets).map (packetEvent (demuxConfig plane))).filterMap
        Ts.Event.effect? = (packetEvent (demuxConfig plane) packet).effect?.toList ++
          (packets.map (packetEvent (demuxConfig plane))).filterMap Ts.Event.effect? := by
      rw [List.map_cons, List.filterMap_cons]
      cases (packetEvent (demuxConfig plane) packet).effect? <;> rfl
    rw [hsplit, List.foldl_append, ih, hone]
    cases hr : routed regs layout model base packet with
    | none => rw [List.filterMap_cons_none hr]; rfl
    | some delivery => rw [List.filterMap_cons_some hr]; rfl

/-- The sink of a bridge refuses no packet of its demultiplexer. -/
theorem packetSink_ok (hok : BoardOk layout model plane) (base : Nat) {d : Ts.TaggedTsDemux}
    (hmode : Ts.Mode (demuxConfig plane) d) (context : σ) {receiver : Nat} {packet : List UInt8}
    (hv : Ts.ValidArgs d.plainTs d.maxTag receiver packet) :
    (packetSink deliver plane base context receiver packet).2 = .ok () := by
  obtain ⟨hlen, hr⟩ := hv
  have htag : receiver < plane.tagCount := by
    have hclamp := hok.clamp
    split at hr
    · rw [hr]
      exact hok.positive
    · have hnat : (UInt8.ofNat plane.tagCount).toNat = plane.tagCount := by
        rw [UInt8.toNat_ofNat']
        omega
      have hmax : d.maxTag.toNat ≤ plane.tagCount := by
        rw [hmode.maxTag, demuxConfig]
        dsimp only
        split
        · rename_i h7
          have : (7 : UInt8).toNat < (UInt8.ofNat plane.tagCount).toNat := h7
          rw [hnat] at this
          exact Nat.le_of_lt this
        · rw [hnat]
      omega
  unfold packetSink
  rw [dif_pos ⟨htag, hlen⟩]
  dsimp only
  split <;> rfl

/-- The pushes of a bridge's pump. -/
def bridgePushes (plane : StreamLayout) (bridge : Nat) (events : List Ts.UsbEvent) :
    List (Ts.PushCall σ) :=
  Ts.pushEvents (packetSink deliver plane (receiverBase plane bridge))
    (wireTagObserver deliver plane (receiverBase plane bridge)) events

/-- The demultiplexer of a bridge that is locked after some USB events. -/
def Locked (plane : StreamLayout) (bridge : Nat) (d : Ts.TaggedTsDemux) : Prop :=
  d.synchronized = true ∧ ∃ (mem : Nat → UInt8) (events : List Ts.UsbEvent)
    (results : List (Result Unit)) (context context' : σ),
    Ts.pushAll (newDemux plane (some mem)) context (bridgePushes deliver plane bridge events) =
      some (results, d, context')

theorem Locked.quiet (hok : BoardOk layout model plane) {bridge : Nat} {d : Ts.TaggedTsDemux}
    (h : Locked deliver plane bridge d) : ∃ acc ev, Ts.Quiet (demuxConfig plane) acc ev d := by
  obtain ⟨-, mem, events, results, context, context', hrun⟩ := h
  have hnew := Ts.quiet_new (demuxConfig plane) mem
  obtain ⟨ev, d', hrun', hq⟩ := Ts.pushAll_quiet hnew
    (wireTagObserver deliver plane (receiverBase plane bridge))
    (fun c receiver packet hv => packetSink_ok deliver hok (receiverBase plane bridge)
      hnew.tracks.mode c hv) events context
  have hd : d' = d := by
    have := hrun'.symm.trans hrun
    simp only [Option.some.injEq, Prod.mk.injEq] at this
    exact this.2.1
  exact ⟨_, _, hd ▸ hq⟩

/-- **A locked bridge delivers a stream of packets as the registers say.** -/
theorem bridgePushes_routed (hok : BoardOk layout model plane)
    (hregs : ∀ x, programmedFor regs layout model x = inTable (syncTable layout model) x)
    {bridge : Nat} {d : Ts.TaggedTsDemux} (hd : Locked deliver plane bridge d)
    {events : List Ts.UsbEvent} {packets : List Packet} {rest : List UInt8}
    (hb : ∀ packet ∈ packets, (demuxConfig plane).boundary packet.sync = true)
    (hrest : rest.length < kPacketSize)
    (hbytes : d.bytes ++ Ts.eventBytes events = bytesOf packets ++ rest) (context : σ) :
    ∃ d', Ts.pushAll d context (bridgePushes deliver plane bridge events) =
        some (List.replicate events.length (.ok ()), d',
          (packets.filterMap (routed regs layout model (receiverBase plane bridge))).foldl deliver
            context) ∧
      d'.synchronized = true ∧ d'.bytes = rest := by
  obtain ⟨acc, ev, hq⟩ := hd.quiet deliver hok
  obtain ⟨ev', d', hrun, hq'⟩ := Ts.pushAll_quiet hq
    (wireTagObserver deliver plane (receiverBase plane bridge))
    (fun c receiver packet hv => packetSink_ok deliver hok (receiverBase plane bridge)
      hq.tracks.mode c hv) events context
  -- both ends of the run on all bytes: through the packets, and where the pushes stopped
  have hthrough : (Ts.reference (demuxConfig plane)).run false (acc ++ Ts.eventBytes events) =
      (true, rest, ev ++ packets.map (packetEvent (demuxConfig plane))) := by
    have hreach := hq.tracks.reach.append (Ts.eventBytes events)
    rw [hd.1, hbytes] at hreach
    refine (hreach.trans (reach_packets rest packets hb)).run_eq_of_none ?_
    show Ts.refStep (demuxConfig plane) true rest = none
    have hlt : rest.length < Ts.kPacketSize := hrest
    simp [Ts.refStep, hlt]
  have hend := hq'.tracks.reach.run_eq_of_none hq'.halted
  rw [hthrough] at hend
  simp only [Prod.mk.injEq, List.append_cancel_left_eq] at hend
  obtain ⟨hsync, hbytes', rfl⟩ := hend
  refine ⟨d', ?_, hsync.symm, hbytes'.symm⟩
  rw [← effects_routed deliver hok hregs (receiverBase plane bridge) packets context hb]
  exact hrun

end

/-- What a packet does to session `k`. -/
def opFor (k : Nat) (delivery : Delivery) : Option Op :=
  if delivery.receiver = k then some delivery.op else none

/-- Deliveries reach their own session only. -/
theorem deliver_session (cfg : Config) (k : Nat) : ∀ (deliveries : List Delivery)
    (sessions : Sessions),
    deliveries.foldl (Sessions.deliver cfg) sessions k =
      (deliveries.filterMap (opFor k)).foldl (step cfg) (sessions k)
  | [], _ => rfl
  | delivery :: deliveries, sessions => by
    rw [List.foldl_cons, deliver_session cfg k deliveries]
    by_cases h : delivery.receiver = k
    · have hop : opFor k delivery = some delivery.op := if_pos h
      rw [List.filterMap_cons_some hop, List.foldl_cons, Sessions.deliver, h,
        Function.update_self]
    · have hop : opFor k delivery = none := if_neg h
      rw [List.filterMap_cons_none hop, Sessions.deliver, Function.update_of_ne (Ne.symm h)]

/-- A locked demultiplexer gives up the lock at a packet that does not start with a sync byte, and
delivers nothing of it. -/
theorem lock_given_up {σ : Type} {d : Ts.TaggedTsDemux} {m : Nat → UInt8}
    (hp : d.pending = some m) (hbound : d.pendingOffset + d.pendingSize ≤ Ts.kPendingCapacity)
    (hsync : d.synchronized = true) (hs : Ts.kPacketSize ≤ d.pendingSize)
    (hb : d.isPacketBoundary (d.bytes.headD 0) = false) (sink : Ts.PacketSink σ)
    (observer : Option (Ts.InvalidTagObserver σ)) (context : σ) :
    ∃ d', d.iterate sink observer context = some (.next d' context) ∧ d'.synchronized = false := by
  have hk : Ts.kPacketSize = 188 := rfl
  have hlen := Ts.TaggedTsDemux.bytes_length hp
  have hhead : d.pendingAt d.pendingOffset = some (d.bytes.headD 0) := by
    have h0 : 0 < d.pendingSize := by omega
    have := Ts.TaggedTsDemux.pendingAt_bytes hp hbound h0
    rw [Nat.add_zero] at this
    rw [this]
    cases hbytes : d.bytes with
    | nil => simp [hbytes] at hlen; omega
    | cons x b => rfl
  unfold Ts.TaggedTsDemux.iterate Ts.TaggedTsDemux.iterateSynchronized
  rw [if_pos hsync, if_neg (by omega), hhead, Option.bind_eq_bind, Option.bind_some,
    if_neg (by rw [hb]; exact Bool.false_ne_true)]
  exact ⟨_, rfl, by rw [Ts.TaggedTsDemux.discardBytes_synchronized]⟩

/-- **End-to-end tag routing**, for every supported model. A configured bridge gives each of its
receivers a sync byte of its own. Once the demultiplexer is locked, however the packets of a stream
are cut into USB events, each packet is enqueued to the session of the receiver it is programmed
for, with `0x47` in front, in the order of the stream, and no packet with another tag is enqueued
anywhere (one with the error bit set is counted for its receiver); a packet that starts with no
sync byte at all ends the lock and nothing of it is delivered. Between two deliveries the sessions
may change in any way (`deliver` is arbitrary); by themselves they see their own deliveries only. -/
theorem tag_routing (model : DeviceModel) :
    ∃ layout plane, initializeLayout model = .ok layout ∧ createLayout model = .ok plane ∧
      ∀ bus bus' : Bus, configureStreamInputs bus layout model = (bus', .ok ()) →
        (∀ receiver < plane.receiversPerBridge, ∃ x,
          syncOf bus'.value layout model receiver = some x ∧
          (demuxConfig plane).boundary x = true ∧
          programmedFor bus'.value layout model x = some receiver) ∧
        ∀ bridge < plane.bridgeCount,
          (∀ {σ : Type} (deliver : σ → Delivery → σ) (d : Ts.TaggedTsDemux),
            Locked deliver plane bridge d →
            ∀ (events : List Ts.UsbEvent) (packets : List Packet) (rest : List UInt8),
            (∀ packet ∈ packets, (demuxConfig plane).boundary packet.sync = true) →
            rest.length < kPacketSize →
            d.bytes ++ Ts.eventBytes events = bytesOf packets ++ rest →
            ∀ context : σ, ∃ d',
              Ts.pushAll d context (bridgePushes deliver plane bridge events) =
                some (List.replicate events.length (.ok ()), d',
                  (packets.filterMap
                    (routed bus'.value layout model (receiverBase plane bridge))).foldl deliver
                    context) ∧
              d'.synchronized = true ∧ d'.bytes = rest) ∧
          (∀ (cfg : Config) (packets : List Packet) (sessions : Sessions) (k : Nat),
            (packets.filterMap
                (routed bus'.value layout model (receiverBase plane bridge))).foldl
                (Sessions.deliver cfg) sessions k =
              ((packets.filterMap
                (routed bus'.value layout model (receiverBase plane bridge))).filterMap
                (opFor k)).foldl (step cfg) (sessions k)) ∧
          (∀ {σ : Type} (deliver : σ → Delivery → σ) (d : Ts.TaggedTsDemux) (m : Nat → UInt8),
            d.pending = some m → d.pendingOffset + d.pendingSize ≤ Ts.kPendingCapacity →
            d.synchronized = true → kPacketSize ≤ d.pendingSize →
            d.isPacketBoundary (d.bytes.headD 0) = false → ∀ context : σ, ∃ d',
              d.iterate (packetSink deliver plane (receiverBase plane bridge))
                  (some (wireTagObserver deliver plane (receiverBase plane bridge))) context =
                some (.next d' context) ∧ d'.synchronized = false) := by
  obtain ⟨layout, plane, hinit, hcreate, hok⟩ := board_ok model
  refine ⟨layout, plane, hinit, hcreate, fun bus bus' hconf => ⟨fun receiver hr => ?_, ?_⟩⟩
  · have hown := hok.own receiver hr
    cases hx : (syncTable layout model)[receiver]? with
    | none =>
      rw [hx] at hown
      cases hown
    | some x =>
      rw [hx, Option.any_some, Bool.and_eq_true, beq_iff_eq] at hown
      refine ⟨x, ?_, hown.1, ?_⟩
      · rw [syncOf_configured hinit hconf, hx]
      · rw [programmedFor_configured hinit hconf, hown.2]
  · intro bridge _
    refine ⟨fun deliver d hd events packets rest hb hrest hbytes context => ?_,
      fun cfg packets sessions k => deliver_session cfg k _ sessions,
      fun deliver d m hp hbound hsync hs hb context =>
        lock_given_up hp hbound hsync hs hb _ _ context⟩
    exact bridgePushes_routed deliver hok (programmedFor_configured hinit hconf) hd hb hrest hbytes
      context

/-- A packet with the given first byte. -/
def taggedPacket (x : UInt8) : Packet := ⟨x :: List.replicate 187 0, by
  rw [List.length_cons, List.length_replicate]
  rfl⟩

/-- A USB event of two packets. -/
def twoPackets (x y : UInt8) : Ts.UsbEvent :=
  ⟨(taggedPacket x).bytes ++ (taggedPacket y).bytes, by
    rw [List.length_append, (taggedPacket x).size_eq, (taggedPacket y).size_eq]
    decide⟩

/-- The board whose receivers 0, 1 and 2 have the tags 1, 4 and 5: after four packets it is locked,
and of two more the one with tag 4 goes to receiver 1 and the one with tag 2 nowhere. -/
theorem tag_routing_mlt8pe3 :
    ∃ plane d d', createLayout .pxMlt8pe3 = .ok plane ∧
      Ts.pushAll d [] (bridgePushes (fun log delivery => log ++ [delivery]) plane 0
        [twoPackets 0x47 0x27]) =
        some ([.ok ()], d', [.packet 1 (taggedPacket 0x47)]) ∧ d'.synchronized = true := by
  obtain ⟨layout, plane, hinit, hcreate, h⟩ := tag_routing .pxMlt8pe3
  cases hinit
  cases hcreate
  have hconf : configureStreamInputs { value := fun _ => 0 } .mlt5pe .pxMlt8pe3 =
      ((configureStreamInputs { value := fun _ => 0 } .mlt5pe .pxMlt8pe3).1, .ok ()) := rfl
  let log : List Delivery → Delivery → List Delivery := fun log delivery => log ++ [delivery]
  let before := [twoPackets 0x17 0x17, twoPackets 0x57 0x17]
  let plane := mltStreamLayout .pxMlt8pe3
  have hrun : (Ts.pushAll (newDemux plane (some fun _ => 0)) []
      (bridgePushes log plane 0 before)).map
      (fun r => (r.2.1.synchronized, r.2.1.bytes)) = some (true, []) := by
    decide +kernel
  obtain ⟨⟨results, d, context'⟩, hpush, hd⟩ := Option.map_eq_some_iff.1 hrun
  simp only [Prod.mk.injEq] at hd
  have hlocked : Locked log plane 0 d := ⟨hd.1, _, _, _, _, _, hpush⟩
  obtain ⟨d', hpushes, hsync, -⟩ := ((h _ _ hconf).2 0 (by decide)).1 log d hlocked
    [twoPackets 0x47 0x27] [taggedPacket 0x47, taggedPacket 0x27] [] (by decide) (by decide)
    (by rw [hd.2]; decide +kernel) []
  have hdeliveries : ([taggedPacket 0x47, taggedPacket 0x27].filterMap
      (routed (configureStreamInputs { value := fun _ => 0 } .mlt5pe .pxMlt8pe3).1.value .mlt5pe
        .pxMlt8pe3 (receiverBase plane 0))).foldl log [] = [.packet 1 (taggedPacket 0x47)] := by
    decide +kernel
  refine ⟨plane, d, d', rfl, ?_, hsync⟩
  rw [hdeliveries] at hpushes
  exact hpushes

end Px4.Stream
