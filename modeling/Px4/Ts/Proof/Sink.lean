import Px4.Ts.Proof.DemuxRun

/-!
# Changing the context of the demultiplexer

The demultiplexer never looks at the context of its callbacks. Two sinks and two observers that
agree along a map `f` of contexts, on the arguments the demultiplexer uses, give the same run up to
`f` (`pushAll_map`). With `f` the replay of a log, the final context of a run is read off the events
of the reference parser, when the sink never refuses a packet (`pushAll_quiet`).
-/

namespace Px4.Ts

variable {σ τ : Type}

/-- The arguments a sink is called with: a whole packet, for receiver 0 of a plain stream or an
admissible tag. -/
def ValidArgs (plainTs : Bool) (maxTag : UInt8) (receiver : Nat) (packet : List UInt8) : Prop :=
  packet.length = kPacketSize ∧ if plainTs then receiver = 0 else receiver < maxTag.toNat

/-- The callbacks of two contexts agree along `f`. -/
structure Agree (f : σ → τ) (plainTs : Bool) (maxTag : UInt8) (sink : PacketSink σ)
    (observer : InvalidTagObserver σ) (sink' : PacketSink τ) (observer' : InvalidTagObserver τ) :
    Prop where
  sink : ∀ c receiver packet, ValidArgs plainTs maxTag receiver packet →
    sink' (f c) receiver packet = (f (sink c receiver packet).1, (sink c receiver packet).2)
  observer : ∀ c x, observer' (f c) x = f (observer c x)

/-- An iteration seen through `f`. -/
def TaggedTsDemux.Iteration.map (f : σ → τ) :
    TaggedTsDemux.Iteration σ → TaggedTsDemux.Iteration τ
  | .done result d context => .done result d (f context)
  | .next d context => .next d (f context)

/-- The mode of an iteration's demultiplexer. -/
def TaggedTsDemux.Iteration.KeepsMode (d : TaggedTsDemux) : TaggedTsDemux.Iteration σ → Prop
  | .done _ d' _ | .next d' _ => d'.plainTs = d.plainTs ∧ d'.maxTag = d.maxTag

section
variable {f : σ → τ} {sink : PacketSink σ} {observer : InvalidTagObserver σ}
  {sink' : PacketSink τ} {observer' : InvalidTagObserver τ} {d : TaggedTsDemux}

theorem offer_map (h : Agree f d.plainTs d.maxTag sink observer sink' observer') (c : σ)
    {receiver : Nat} {packet : List UInt8}
    (hv : ValidArgs d.plainTs d.maxTag receiver packet) :
    d.offer sink' (f c) receiver packet = (d.offer sink c receiver packet).map f := by
  unfold TaggedTsDemux.offer
  rw [h.sink c receiver packet hv]
  rcases sink c receiver packet with ⟨c', _ | ⟨⟩⟩ <;> rfl

theorem offer_mode (c : σ) (receiver : Nat) (packet : List UInt8) :
    (d.offer sink c receiver packet).KeepsMode d := by
  unfold TaggedTsDemux.offer
  rcases sink c receiver packet with ⟨c', _ | ⟨⟩⟩ <;> exact ⟨rfl, rfl⟩

theorem readN?_length {cap : Nat} {m : Nat → UInt8} {i n : Nat} {bs : List UInt8}
    (h : Lib.readN? cap m i n = some bs) : bs.length = n := by
  unfold Lib.readN? at h
  split at h
  · cases h
    exact Lib.slice_length _ _ _
  · cases h

theorem handlePacket_map (h : Agree f d.plainTs d.maxTag sink observer sink' observer') (c : σ)
    (x : UInt8) :
    d.handlePacket sink' (some observer') (f c) x =
      (d.handlePacket sink (some observer) c x).map (TaggedTsDemux.Iteration.map f) := by
  unfold TaggedTsDemux.handlePacket
  cases hread : d.pending.bind fun m =>
    Lib.readN? kPendingCapacity m d.pendingOffset kPacketSize with
  | none =>
    split
    · rfl
    · dsimp only
      split
      · split <;> simp [TaggedTsDemux.Iteration.map, h.observer]
      · rfl
  | some packet =>
    obtain ⟨m, -, hm⟩ := Option.bind_eq_some_iff.1 hread
    have hlen := readN?_length hm
    split
    · rename_i hp
      have hv : ValidArgs d.plainTs d.maxTag 0 packet := ⟨hlen, by rw [if_pos hp]⟩
      exact congrArg some (offer_map h c hv)
    · rename_i hp
      dsimp only
      split
      · split <;> simp [TaggedTsDemux.Iteration.map, h.observer]
      · rename_i hc
        have hv : ValidArgs d.plainTs d.maxTag (((x >>> 4) &&& 0x07).toNat - 1)
            (packet.set 0 0x47) := by
          refine ⟨by rw [List.length_set, hlen], ?_⟩
          rw [if_neg hp]
          simp only [not_or, gt_iff_lt, UInt8.not_lt] at hc
          have hz : ((x >>> 4) &&& 0x07).toNat ≠ 0 := fun h0 => hc.1 (UInt8.toNat_inj.1 h0)
          have hle : ((x >>> 4) &&& 0x07).toNat ≤ d.maxTag.toNat := hc.2.1
          omega
        exact congrArg some (offer_map h c hv)

theorem handlePacket_mode {c : σ} {x : UInt8} {it : TaggedTsDemux.Iteration σ}
    (h : d.handlePacket sink (some observer) c x = some it) : it.KeepsMode d := by
  unfold TaggedTsDemux.handlePacket at h
  split at h
  · obtain ⟨packet, -, h⟩ := Option.bind_eq_some_iff.1 h
    cases h
    exact offer_mode _ _ _
  · dsimp only at h
    split at h
    · cases h
      exact ⟨rfl, rfl⟩
    · obtain ⟨packet, -, h⟩ := Option.bind_eq_some_iff.1 h
      cases h
      exact offer_mode _ _ _

theorem iterateSynchronized_map (h : Agree f d.plainTs d.maxTag sink observer sink' observer')
    (c : σ) :
    d.iterateSynchronized sink' (some observer') (f c) =
      (d.iterateSynchronized sink (some observer) c).map (TaggedTsDemux.Iteration.map f) := by
  unfold TaggedTsDemux.iterateSynchronized
  split
  · rfl
  · cases d.pendingAt d.pendingOffset with
    | none => rfl
    | some x =>
      simp only [Option.bind_eq_bind, Option.bind_some]
      split
      · exact handlePacket_map h c x
      · rfl

theorem discardBytes_mode (d : TaggedTsDemux) (k : Nat) :
    (d.discardBytes k).plainTs = d.plainTs ∧ (d.discardBytes k).maxTag = d.maxTag := by
  unfold TaggedTsDemux.discardBytes
  split <;> exact ⟨rfl, rfl⟩

theorem iterateSynchronized_mode {c : σ} {it : TaggedTsDemux.Iteration σ}
    (h : d.iterateSynchronized sink (some observer) c = some it) : it.KeepsMode d := by
  unfold TaggedTsDemux.iterateSynchronized at h
  split at h
  · cases h
    exact ⟨rfl, rfl⟩
  · obtain ⟨x, -, h⟩ := Option.bind_eq_some_iff.1 h
    split at h
    · exact handlePacket_mode h
    · cases h
      exact discardBytes_mode _ _

theorem acquireSync_mode {found : Bool} {d' : TaggedTsDemux}
    (h : d.acquireSync = some (found, d')) : d'.plainTs = d.plainTs ∧ d'.maxTag = d.maxTag := by
  unfold TaggedTsDemux.acquireSync at h
  dsimp only at h
  split at h
  · cases h
    exact ⟨rfl, rfl⟩
  · obtain ⟨start, -, h⟩ := Option.bind_eq_some_iff.1 h
    cases start <;> cases h <;> exact discardBytes_mode _ _

theorem iterate_map (h : Agree f d.plainTs d.maxTag sink observer sink' observer') (c : σ) :
    d.iterate sink' (some observer') (f c) =
      (d.iterate sink (some observer) c).map (TaggedTsDemux.Iteration.map f) := by
  unfold TaggedTsDemux.iterate
  split
  · exact iterateSynchronized_map h c
  · cases ha : d.acquireSync with
    | none => rfl
    | some r =>
      obtain ⟨found, d'⟩ := r
      obtain ⟨hp, hm⟩ := acquireSync_mode ha
      cases found with
      | false => rfl
      | true =>
        have h' : Agree f d'.plainTs d'.maxTag sink observer sink' observer' := by
          rw [hp, hm]
          exact h
        exact iterateSynchronized_map (d := { d' with synchronized := true }) h' c

theorem iterate_mode {c : σ} {it : TaggedTsDemux.Iteration σ}
    (h : d.iterate sink (some observer) c = some it) : it.KeepsMode d := by
  unfold TaggedTsDemux.iterate at h
  split at h
  · exact iterateSynchronized_mode h
  · obtain ⟨⟨found, d'⟩, ha, h⟩ := Option.bind_eq_some_iff.1 h
    obtain ⟨hp, hm⟩ := acquireSync_mode ha
    cases found with
    | false =>
      cases h
      exact ⟨hp, hm⟩
    | true =>
      have hmode := iterateSynchronized_mode h
      cases it <;> exact ⟨hmode.1.trans hp, hmode.2.trans hm⟩

/-- The result of a loop or a push, seen through `f`. -/
def mapContext (f : σ → τ) (r : Result Unit × TaggedTsDemux × σ) :
    Result Unit × TaggedTsDemux × τ :=
  (r.1, r.2.1, f r.2.2)

theorem loop_map : ∀ (fuel : Nat) (d : TaggedTsDemux) (c : σ),
    Agree f d.plainTs d.maxTag sink observer sink' observer' →
    TaggedTsDemux.loop sink' (some observer') fuel d (f c) =
      (TaggedTsDemux.loop sink (some observer) fuel d c).map (mapContext f)
  | 0, _, _, _ => rfl
  | fuel + 1, d, c, h => by
    unfold TaggedTsDemux.loop
    rw [iterate_map h c]
    cases hit : d.iterate sink (some observer) c with
    | none => rfl
    | some it =>
      have hmode := iterate_mode hit
      cases it with
      | done => rfl
      | next d' c' =>
        have h' : Agree f d'.plainTs d'.maxTag sink observer sink' observer' := by
          rw [hmode.1, hmode.2]
          exact h
        exact loop_map fuel d' c' h'

theorem writeInput_mode {input : ByteView} {d' : TaggedTsDemux}
    (h : d.writeInput input = some d') : d'.plainTs = d.plainTs ∧ d'.maxTag = d.maxTag := by
  unfold TaggedTsDemux.writeInput at h
  obtain ⟨m, -, h⟩ := Option.bind_eq_some_iff.1 h
  obtain ⟨m', -, h⟩ := Option.bind_eq_some_iff.1 h
  cases h
  exact ⟨rfl, rfl⟩

theorem compactPending_mode {d' : TaggedTsDemux} (h : d.compactPending = some d') :
    d'.plainTs = d.plainTs ∧ d'.maxTag = d.maxTag := by
  unfold TaggedTsDemux.compactPending at h
  split at h
  · cases h
    exact ⟨rfl, rfl⟩
  · split at h
    · obtain ⟨m, -, h⟩ := Option.bind_eq_some_iff.1 h
      obtain ⟨bytes, -, h⟩ := Option.bind_eq_some_iff.1 h
      obtain ⟨m', -, h⟩ := Option.bind_eq_some_iff.1 h
      cases h
      exact ⟨rfl, rfl⟩
    · cases h
      exact ⟨rfl, rfl⟩

theorem copyInput_mode {input : ByteView} {d' : TaggedTsDemux}
    (h : d.copyInput input = some d') : d'.plainTs = d.plainTs ∧ d'.maxTag = d.maxTag := by
  unfold TaggedTsDemux.copyInput at h
  split at h
  · dsimp only at h
    split at h
    · obtain ⟨d₁, hc, hw⟩ := Option.bind_eq_some_iff.1 h
      obtain ⟨hp, hm⟩ := compactPending_mode hc
      obtain ⟨hp', hm'⟩ := writeInput_mode hw
      exact ⟨hp'.trans hp, hm'.trans hm⟩
    · exact writeInput_mode h
  · cases h
    exact ⟨rfl, rfl⟩

/-- **One call**, seen through `f`. -/
theorem push_map (h : Agree f d.plainTs d.maxTag sink observer sink' observer') (input : ByteView)
    (c : σ) :
    d.push input (some sink') (f c) (some observer') =
      (d.push input (some sink) c (some observer)).map (mapContext f) := by
  unfold TaggedTsDemux.push
  dsimp only
  split
  · rfl
  · split
    · rfl
    · split
      · rfl
      · cases hc : d.copyInput input with
        | none => rfl
        | some d' =>
          obtain ⟨hp, hm⟩ := copyInput_mode hc
          have h' : Agree f d'.plainTs d'.maxTag sink observer sink' observer' := by
            rw [hp, hm]
            exact h
          exact loop_map _ d' c h'

/-- The mode of a loop's demultiplexer. -/
theorem loop_mode : ∀ (fuel : Nat) (d : TaggedTsDemux) (c : σ) {r : Result Unit}
    {d' : TaggedTsDemux} {c' : σ},
    TaggedTsDemux.loop sink (some observer) fuel d c = some (r, d', c') →
    d'.plainTs = d.plainTs ∧ d'.maxTag = d.maxTag
  | 0, _, _, _, _, _, h => nomatch h
  | fuel + 1, d, c, r, d', c', h => by
    unfold TaggedTsDemux.loop at h
    obtain ⟨it, hit, h⟩ := Option.bind_eq_some_iff.1 h
    have hmode := iterate_mode hit
    cases it with
    | done =>
      cases h
      exact hmode
    | next d₁ c₁ =>
      obtain ⟨hp, hm⟩ := loop_mode fuel d₁ c₁ h
      exact ⟨hp.trans hmode.1, hm.trans hmode.2⟩

theorem push_mode {input : ByteView} {c : σ} {r : Result Unit} {d' : TaggedTsDemux} {c' : σ}
    (h : d.push input (some sink) c (some observer) = some (r, d', c')) :
    d'.plainTs = d.plainTs ∧ d'.maxTag = d.maxTag := by
  unfold TaggedTsDemux.push at h
  dsimp only at h
  split at h
  · cases h
    exact ⟨rfl, rfl⟩
  · split at h
    · cases h
      exact ⟨rfl, rfl⟩
    · split at h
      · cases h
        exact ⟨rfl, rfl⟩
      · obtain ⟨d₁, hc, h⟩ := Option.bind_eq_some_iff.1 h
        obtain ⟨hp, hm⟩ := copyInput_mode hc
        obtain ⟨hp', hm'⟩ := loop_mode _ _ _ h
        exact ⟨hp'.trans hp, hm'.trans hm⟩

/-- Pushes of `inputs` with one sink and one observer. -/
def pushes (sink : PacketSink σ) (observer : InvalidTagObserver σ) (inputs : List ByteView) :
    List (PushCall σ) :=
  inputs.map fun input => ⟨input, some sink, some observer⟩

/-- **A run**, seen through `f`. -/
theorem pushAll_map : ∀ (inputs : List ByteView) (d : TaggedTsDemux) (c : σ),
    Agree f d.plainTs d.maxTag sink observer sink' observer' →
    pushAll d (f c) (pushes sink' observer' inputs) =
      (pushAll d c (pushes sink observer inputs)).map fun r => (r.1, r.2.1, f r.2.2)
  | [], _, _, _ => rfl
  | input :: inputs, d, c, h => by
    simp only [pushes, List.map_cons, pushAll]
    rw [push_map h]
    cases hp : d.push input (some sink) c (some observer) with
    | none => rfl
    | some r =>
      obtain ⟨r, d', c'⟩ := r
      obtain ⟨hpl, hm⟩ := push_mode hp
      have h' : Agree f d'.plainTs d'.maxTag sink observer sink' observer' := by
        rw [hpl, hm]
        exact h
      have ih := pushAll_map inputs d' c' h'
      simp only [pushes] at ih
      simp only [Option.map_some, mapContext, Option.bind_eq_bind, Option.bind_some, ih]
      cases pushAll d' c' (inputs.map fun input => ⟨input, some sink, some observer⟩) <;> rfl

end

/-! ## Sinks that never refuse -/

/-- The bytes of one USB event, at most a transfer. -/
abbrev UsbEvent := { bs : List UInt8 // bs.length ≤ kMaxStreamTransfer }

/-- Pushes of whole USB events. -/
def pushEvents (sink : PacketSink σ) (observer : InvalidTagObserver σ) (events : List UsbEvent) :
    List (PushCall σ) :=
  pushes sink observer (events.map fun event => .of event.1)

/-- The bytes of USB events. -/
def eventBytes (events : List UsbEvent) : List UInt8 := events.flatMap (·.1)

/-- What an effect does to the context. -/
def applyEffect (sink : PacketSink σ) (observer : InvalidTagObserver σ) (c : σ) : Effect → σ
  | .emit receiver packet => (sink c receiver packet).1
  | .observe x => observer c x

/-- A sink that takes everything, recorded. -/
def takeAll : PacketSink (Unit × List Call) := recordSink fun c _ _ => (c, .ok ())

/-- An observer that does nothing, recorded. -/
def seeAll : InvalidTagObserver (Unit × List Call) := recordObserver fun c _ => c

/-- The demultiplexer after pushes that all succeeded: it tracks the reference parser, which has no
step left. -/
structure Quiet (cfg : Config) (acc : List UInt8) (ev : List Event) (d : TaggedTsDemux) : Prop where
  tracks : Tracks cfg acc ev d
  halted : refStep cfg d.synchronized d.bytes = none
  room : d.pendingSize < kSyncPacketCount * kPacketSize

theorem quiet_new (cfg : Config) (mem : Nat → UInt8) :
    Quiet cfg [] [] (.new cfg.maxTag cfg.plainTs (some mem)) where
  tracks := ⟨⟨rfl, rfl⟩, ⟨mem, rfl⟩, Nat.zero_le _, .refl _ _, rfl⟩
  halted := rfl
  room := Nat.succ_pos 751

/-- A loop that takes everything records no failed call. -/
theorem loop_takeAll_ok {fuel : Nat} {d d' : TaggedTsDemux} {log log' : List Call}
    {r : Result Unit} (hlog : ∀ call ∈ log, call.failed = false)
    (h : TaggedTsDemux.loop takeAll (some seeAll) fuel d ((), log) = some (r, d', ((), log'))) :
    ∀ call ∈ log', call.failed = false := by
  -- dropping the failed calls of the log is a map of contexts that the callbacks do not notice
  let f : Unit × List Call → Unit × List Call := fun c => (c.1, c.2.filter fun call => !call.failed)
  have hagree : Agree f d.plainTs d.maxTag takeAll seeAll takeAll seeAll := by
    refine ⟨fun c receiver packet _ => ?_, fun c x => ?_⟩
    · simp [f, takeAll, recordSink, List.filter_append, Call.failed]
    · simp [f, seeAll, recordObserver, List.filter_append, Call.failed]
  have hf : f ((), log) = ((), log) := by
    refine Prod.ext rfl (List.filter_eq_self.2 fun call hc => ?_)
    rw [hlog call hc]
    rfl
  have hmap := loop_map fuel d ((), log) hagree
  rw [hf, h] at hmap
  have hfil : log'.filter (fun call => !call.failed) = log' := by
    have := congrArg (Option.map fun r => r.2.2.2) hmap
    simpa [mapContext, f] using this.symm
  intro call hc
  have := List.filter_eq_self.1 hfil call hc
  simpa using this

/-- **One event** is taken as a whole. -/
theorem push_quiet {cfg : Config} {acc : List UInt8} {ev : List Event} {d : TaggedTsDemux}
    {log : List Call} (h : Quiet cfg acc ev d) (hlog : ∀ call ∈ log, call.failed = false)
    (event : UsbEvent) :
    ∃ ev' d' calls, d.push (.of event.1) (some takeAll) ((), log) (some seeAll) =
        some (.ok (), d', ((), log ++ calls)) ∧ Match true ev' calls ∧
      (∀ call ∈ log ++ calls, call.failed = false) ∧ Quiet cfg (acc ++ event.1) (ev ++ ev') d' := by
  obtain ⟨bs, hbs⟩ := event
  have hroom := h.room
  have hq : kSyncPacketCount * kPacketSize = 752 := rfl
  have hcap : kPendingCapacity = kMaxStreamTransfer + 752 := rfl
  have ha : d.Accepts ⟨.of bs, some takeAll, some seeAll⟩ := by
    obtain ⟨m, hp⟩ := h.tracks.pending
    refine ⟨rfl, by simp, hbs, by rw [hp]; rfl, by omega, ?_⟩
    show bs.length ≤ _
    omega
  obtain ⟨d₁, hc, ht₁⟩ := copyInput_spec h.tracks ha.2.1 ha.2.2.2.2.2
  obtain ⟨result, d', ⟨⟩, log', hl, ⟨ev', calls, rfl, hm', ht'⟩, hok, herr⟩ :=
    loop_spec (fun c _ _ => (c, .ok ())) (some fun c _ => c) (d₁.pendingSize + 1) ev d₁ () log ht₁
      (Nat.lt_succ_self _)
  have hall := loop_takeAll_ok hlog hl
  have hres : result = .ok () := by
    match result, herr with
    | .ok (), _ => rfl
    | .error e, herr =>
      obtain ⟨call, hcall, hf⟩ := herr e rfl
      rw [hall call hcall] at hf
      cases hf
  subst hres
  refine ⟨ev', d', calls, ?_, hm', hall, ht', (hok rfl).1, (hok rfl).2⟩
  rw [push_accepted _ ha, hc, Option.bind_some]
  exact hl

/-- **Events** are taken as a whole, one after the other. -/
theorem pushAll_takeAll {cfg : Config} :
    ∀ (events : List UsbEvent) {acc : List UInt8} {ev : List Event} {d : TaggedTsDemux}
      {log : List Call}, Quiet cfg acc ev d → (∀ call ∈ log, call.failed = false) →
      ∃ ev' d' calls, pushAll d ((), log) (pushEvents takeAll seeAll events) =
          some (List.replicate events.length (.ok ()), d', ((), log ++ calls)) ∧
        Match true ev' calls ∧ Quiet cfg (acc ++ eventBytes events) (ev ++ ev') d'
  | [], acc, ev, d, log, h, _ => by
    refine ⟨[], d, [], ?_, .nil _, ?_⟩
    · rw [List.append_nil]
      rfl
    · rw [eventBytes, List.flatMap_nil, List.append_nil, List.append_nil]
      exact h
  | event :: events, acc, ev, d, log, h, hlog => by
    obtain ⟨ev₁, d₁, calls₁, hp, hm₁, hlog₁, h₁⟩ := push_quiet h hlog event
    obtain ⟨ev₂, d₂, calls₂, hps, hm₂, h₂⟩ := pushAll_takeAll events h₁ hlog₁
    refine ⟨ev₁ ++ ev₂, d₂, calls₁ ++ calls₂, ?_, hm₁.append hm₂, ?_⟩
    · simp only [pushEvents, pushes, List.map_cons, pushAll] at hps ⊢
      simp only [hp, hps, Option.bind_eq_bind, Option.bind_some, List.length_cons,
        List.replicate_succ, List.append_assoc]
    · rw [eventBytes, List.flatMap_cons, ← List.append_assoc, ← List.append_assoc]
      exact h₂

/-- **A sink that never refuses**: the pushes of USB events all succeed, and the context they leave
is that of the reference parser's events. -/
theorem pushAll_quiet {cfg : Config} {acc : List UInt8} {ev : List Event} {d : TaggedTsDemux}
    (h : Quiet cfg acc ev d) {sink : PacketSink σ} (observer : InvalidTagObserver σ)
    (hok : ∀ c receiver packet, ValidArgs d.plainTs d.maxTag receiver packet →
      (sink c receiver packet).2 = .ok ()) (events : List UsbEvent) (c : σ) :
    ∃ ev' d', pushAll d c (pushEvents sink observer events) =
        some (List.replicate events.length (.ok ()), d',
          (ev'.filterMap Event.effect?).foldl (applyEffect sink observer) c) ∧
      Quiet cfg (acc ++ eventBytes events) (ev ++ ev') d' := by
  let replay : Unit × List Call → σ := fun l =>
    (l.2.filterMap Call.effect?).foldl (applyEffect sink observer) c
  have hagree : Agree replay d.plainTs d.maxTag takeAll seeAll sink observer := by
    refine ⟨fun l receiver packet hv => Prod.ext ?_ (hok _ _ _ hv), fun l x => ?_⟩
    · simp [replay, takeAll, recordSink, Call.effect?, applyEffect]
    · simp [replay, seeAll, recordObserver, Call.effect?, applyEffect]
  have hnone : ∀ call ∈ ([] : List Call), call.failed = false := by rintro _ ⟨⟩
  obtain ⟨ev', d', calls, hrun, hm, hq⟩ := pushAll_takeAll events h hnone
  have hmap := pushAll_map (events.map fun event => .of event.1) d ((), []) hagree
  refine ⟨ev', d', ?_, hq⟩
  have hrun' : pushAll d ((), []) (pushes takeAll seeAll (events.map fun event => .of event.1)) =
      some (List.replicate events.length (.ok ()), d', ((), [] ++ calls)) := hrun
  rw [hrun'] at hmap
  rw [← hm.ordered rfl]
  exact hmap

end Px4.Ts
