import Px4.Ts.Proof.DemuxStep

/-!
# Runs of the demultiplexer

`push` copies its input behind the pending bytes (`copyInput_spec`) and then loops (`loop_spec`);
the loop never runs out of fuel and never reads outside the buffer. `RunInv` is what every run of
`push` calls keeps: the demultiplexer tracks the reference parser on all bytes accepted so far, the
successful sink calls are the parser's packets, and unless a sink call has failed, fewer bytes than
four packets are pending (`push_spec`, `pushAll_spec`).

* `pushAll_eq_reference`: however the input is cut and whenever the sink fails, once a push
  succeeds the calls and the counters are those of the reference parser on the whole input.
* `pushAll_conserves`: capacity, byte conservation and the cause of `SLOW_CONSUMER`.
-/

namespace Px4.Ts

variable {σ : Type}

/-! ## The loop -/

/-- How a whole `push` or its loop ends, from the events `ev` and the calls `log`. -/
structure PushSpec (cfg : Config) (observed : Bool) (acc : List UInt8) (ev : List Event)
    (log : List Call) (result : Result Unit) (d' : TaggedTsDemux) (log' : List Call) : Prop where
  advances : Advances cfg observed acc ev log d' log'
  halted : result = .ok () → refStep cfg d'.synchronized d'.bytes = none ∧
    d'.pendingSize < kSyncPacketCount * kPacketSize
  failed : ∀ e, result = .error e → ∃ call ∈ log', call.failed = true

/-- **The loop of `push`** ends, with no read outside the buffer. -/
theorem loop_spec {cfg : Config} {acc : List UInt8} (sink : PacketSink σ)
    (observer : Option (InvalidTagObserver σ)) :
    ∀ (fuel : Nat) (ev : List Event) (d : TaggedTsDemux) (context : σ) (log : List Call),
      Tracks cfg acc ev d → d.pendingSize < fuel →
      ∃ result d' context' log',
        TaggedTsDemux.loop (recordSink sink) (observer.map recordObserver) fuel d (context, log) =
          some (result, d', (context', log')) ∧
        PushSpec cfg observer.isSome acc ev log result d' log'
  | 0, _, _, _, _, _, hf => absurd hf (Nat.not_lt_zero _)
  | fuel + 1, ev, d, context, log, ht, hf => by
    obtain ⟨it, hit, hspec⟩ := iterate_spec sink observer context log ht
    rw [TaggedTsDemux.loop, hit, Option.bind_eq_bind, Option.bind_some]
    match it, hspec with
    | .done (.ok ()) d' (c', log'), hspec =>
      exact ⟨_, _, _, _, rfl, hspec.1, fun _ => hspec.2, nofun⟩
    | .done (.error e) d' (c', log'), hspec =>
      exact ⟨_, _, _, _, rfl, hspec.1, nofun, fun _ _ => hspec.2⟩
    | .next d₁ (c₁, log₁), ⟨⟨ev₁, calls₁, hlog, hm, ht₁⟩, hlt⟩ =>
      obtain rfl : log₁ = log ++ calls₁ := hlog
      obtain ⟨result, d', c', log', hl, hp⟩ :=
        loop_spec sink observer fuel (ev ++ ev₁) d₁ c₁ (log ++ calls₁) ht₁ (by omega)
      exact ⟨result, d', c', log', hl, hp.advances.after hm, hp.halted, hp.failed⟩

/-! ## The copy of the input -/

section
variable {cfg : Config} {acc : List UInt8} {ev : List Event} {d : TaggedTsDemux}

/-- The same pending bytes at another place of the buffer. -/
theorem Tracks.move (h : Tracks cfg acc ev d) (m' : Nat → UInt8) (off : Nat)
    (hb : off + d.pendingSize ≤ kPendingCapacity) (hs : Lib.slice m' off d.pendingSize = d.bytes) :
    Tracks cfg acc ev { d with pending := some m', pendingOffset := off } := by
  refine ⟨⟨h.mode.plainTs, h.mode.maxTag⟩, ⟨m', rfl⟩, hb, ?_, ?_⟩
  · show (reference cfg).Reach false acc ev d.synchronized (Lib.slice m' off d.pendingSize)
    rw [hs]
    exact h.reach
  · show d.counters = countersOf acc ev (Lib.slice m' off d.pendingSize)
    rw [hs]
    exact h.counters

/-- Compaction moves the pending bytes to the front. -/
theorem compactPending_spec (h : Tracks cfg acc ev d) :
    ∃ d₁, d.compactPending = some d₁ ∧ Tracks cfg acc ev d₁ ∧ d₁.pendingOffset = 0 ∧
      d₁.pendingSize = d.pendingSize := by
  obtain ⟨m, hp⟩ := h.pending
  have hb := h.bound
  have hbytes := TaggedTsDemux.bytes_eq hp
  unfold TaggedTsDemux.compactPending
  split
  · rename_i h0
    exact ⟨d, rfl, h, h0, rfl⟩
  · split
    · have hw : Lib.write? kPendingCapacity m 0 (Lib.slice m d.pendingOffset d.pendingSize) =
          some (Lib.write m 0 (Lib.slice m d.pendingOffset d.pendingSize)) :=
        Lib.write?_of_le m (by rw [Lib.slice_length]; omega)
      simp only [hp, Option.bind_eq_bind, Option.bind_some, Lib.readN?_of_le m hb, hw]
      refine ⟨_, rfl, h.move _ _ (by omega) ?_, rfl, rfl⟩
      rw [hbytes]
      simpa using Lib.slice_write_self m 0 (Lib.slice m d.pendingOffset d.pendingSize)
    · rename_i hs
      have hs : d.pendingSize = 0 := by simpa using hs
      refine ⟨_, rfl, ?_, rfl, rfl⟩
      have := h.move m 0 (by omega) (by rw [hbytes, hs]; rfl)
      rwa [← hp] at this

/-- The copy behind pending bytes that leave room for it. -/
theorem writeInput_spec (h : Tracks cfg acc ev d) {bs : List UInt8}
    (hb : d.pendingOffset + d.pendingSize + bs.length ≤ kPendingCapacity) :
    ∃ d', d.writeInput (.of bs) = some d' ∧ Tracks cfg (acc ++ bs) ev d' := by
  obtain ⟨m, hp⟩ := h.pending
  obtain ⟨h1, h2, h3, h4, h5⟩ := h.fields
  have hs := Lib.slice_write_append m d.pendingOffset d.pendingSize bs
  rw [← TaggedTsDemux.bytes_eq hp] at hs
  refine ⟨{ d with
      pending := some (Lib.write m (d.pendingOffset + d.pendingSize) bs)
      pendingSize := d.pendingSize + bs.length
      inputBytesAccepted := d.inputBytesAccepted + bs.length }, ?_, ?_⟩
  · simp [TaggedTsDemux.writeInput, hp, Lib.write?_of_le m hb]
  · refine ⟨⟨h.mode.plainTs, h.mode.maxTag⟩, ⟨_, rfl⟩, by simp only; omega, ?_, ?_⟩
    · show (reference cfg).Reach false (acc ++ bs) ev d.synchronized (Lib.slice _ _ _)
      rw [hs]
      exact h.reach.append bs
    · simp [TaggedTsDemux.counters, countersOf, TaggedTsDemux.bytes, h1, h2, h3, h4, h5]

/-- A view whose data is there is the view of its bytes. -/
theorem view_eq_of {input : ByteView} (h : ¬ (input.size ≠ 0 ∧ input.data = none))
    (h0 : input.size ≠ 0) : input = .of input.bytes := by
  obtain ⟨data, size, hsz⟩ := input
  cases data with
  | none => exact absurd ⟨h0, rfl⟩ h
  | some bs =>
    obtain rfl : bs.length = size := hsz bs rfl
    rfl

theorem bytes_of_size_zero {input : ByteView} (h0 : input.size = 0) : input.bytes = [] := by
  obtain ⟨data, size, hsz⟩ := input
  cases data with
  | none => rfl
  | some bs => exact List.length_eq_zero_iff.1 ((hsz bs rfl).trans h0)

/-- **The copy of the input** stays in the buffer. -/
theorem copyInput_spec (h : Tracks cfg acc ev d) {input : ByteView}
    (hdata : ¬ (input.size ≠ 0 ∧ input.data = none))
    (hsize : input.size ≤ kPendingCapacity - d.pendingSize) :
    ∃ d', d.copyInput input = some d' ∧ Tracks cfg (acc ++ input.bytes) ev d' := by
  have hbound := h.bound
  unfold TaggedTsDemux.copyInput
  by_cases h0 : input.size = 0
  · refine ⟨d, by simp [h0], ?_⟩
    rwa [bytes_of_size_zero h0, List.append_nil]
  · rw [if_pos h0]
    have hof := view_eq_of hdata h0
    have hlen : input.size = input.bytes.length := congrArg ByteView.size hof
    -- the tail is computed on `std::size_t`, where it could wrap
    have htail : sizeSub (sizeSub kPendingCapacity d.pendingOffset) d.pendingSize =
        kPendingCapacity - d.pendingOffset - d.pendingSize := by
      have h1 : sizeSub kPendingCapacity d.pendingOffset = kPendingCapacity - d.pendingOffset :=
        if_pos (by omega)
      rw [h1]
      exact if_pos (by omega)
    dsimp only
    rw [htail]
    split
    · obtain ⟨d₁, hc, h₁, ho, hs⟩ := compactPending_spec h
      rw [hc, Option.bind_some, hof]
      exact writeInput_spec h₁ (by rw [ho, hs, ← hlen]; omega)
    · rw [hof]
      exact writeInput_spec h (by rw [← hlen]; omega)

end

/-! ## One call -/

/-- The guards of `push`: is the input of this call copied into the buffer? -/
def TaggedTsDemux.Accepts (d : TaggedTsDemux) (call : PushCall σ) : Prop :=
  call.sink.isSome ∧ ¬ (call.input.size ≠ 0 ∧ call.input.data = none) ∧
    call.input.size ≤ kMaxStreamTransfer ∧ d.pending.isSome ∧ d.pendingSize ≤ kPendingCapacity ∧
    call.input.size ≤ kPendingCapacity - d.pendingSize

instance (d : TaggedTsDemux) (call : PushCall σ) : Decidable (d.Accepts call) :=
  inferInstanceAs (Decidable (_ ∧ _))

/-- The bytes of this call that are copied into the buffer. -/
def TaggedTsDemux.acceptedOf (d : TaggedTsDemux) (call : PushCall σ) : List UInt8 :=
  if d.Accepts call then call.input.bytes else []

/-- The call with its sink and its observer recorded. -/
def recordCall (call : PushCall σ) : PushCall (σ × List Call) :=
  ⟨call.input, call.sink.map recordSink, call.observer.map recordObserver⟩

theorem accepts_recordCall (d : TaggedTsDemux) (call : PushCall σ) :
    d.Accepts (recordCall call) ↔ d.Accepts call := by
  simp [TaggedTsDemux.Accepts, recordCall]

/-- **A call that is not accepted changes nothing**; it is refused for want of room only when four
packets or more are pending. -/
theorem push_refused {d : TaggedTsDemux} (call : PushCall σ) (context : σ)
    (h : ¬ d.Accepts call) :
    ∃ e, d.push call.input call.sink context call.observer = some (.error e, d, context) ∧
      (e = .slowConsumer → ¬ d.pendingSize ≤ kSyncPacketCount * kPacketSize) := by
  obtain ⟨input, sink, observer⟩ := call
  unfold TaggedTsDemux.push
  cases sink with
  | none => exact ⟨_, rfl, nofun⟩
  | some sink =>
    dsimp only
    split
    · exact ⟨_, rfl, nofun⟩
    · rename_i hin
      rw [not_or] at hin
      split
      · exact ⟨_, rfl, nofun⟩
      · rename_i hp
        split
        · refine ⟨_, rfl, fun _ hsz => ?_⟩
          simp only [kPendingCapacity, kMaxStreamTransfer, kSyncPacketCount, kPacketSize] at *
          omega
        · rename_i hc
          refine absurd ⟨rfl, hin.1, by simp only; omega, ?_, by omega, by simp only; omega⟩ h
          cases hd : d.pending with
          | none => simp [hd] at hp
          | some m => rfl

theorem push_accepted {d : TaggedTsDemux} {input : ByteView} {sink : PacketSink σ}
    {observer : Option (InvalidTagObserver σ)} (context : σ)
    (h : d.Accepts ⟨input, some sink, observer⟩) :
    d.push input (some sink) context observer =
      (d.copyInput input).bind fun d =>
        TaggedTsDemux.loop sink observer (d.pendingSize + 1) d context := by
  obtain ⟨-, h1, h2, h3, h4, h5⟩ := h
  dsimp only at h1 h2 h5
  have hp : d.pending.isNone = false := by
    cases hd : d.pending with
    | none => simp [hd] at h3
    | some m => rfl
  unfold TaggedTsDemux.push
  dsimp only
  rw [if_neg (not_or.2 ⟨h1, by omega⟩), if_neg (by simp [hp]), if_neg (by omega)]
  rfl

/-! ## Runs -/

/-- What holds between the calls of a run. -/
structure RunInv (cfg : Config) (observed : Bool) (acc : List UInt8) (d : TaggedTsDemux)
    (log : List Call) : Prop where
  tracks : ∃ ev, Tracks cfg acc ev d ∧ Match observed ev log
  room : d.pendingSize < kSyncPacketCount * kPacketSize ∨ ∃ call ∈ log, call.failed = true

/-- **One call** of a run: defined, and it keeps the invariant. -/
theorem push_spec {cfg : Config} {observed : Bool} {acc : List UInt8} {d : TaggedTsDemux}
    {log : List Call} (h : RunInv cfg observed acc d log) (call : PushCall σ) (context : σ)
    (hobs : observed = true → call.observer.isSome = true) :
    ∃ result d' context' log',
      d.push call.input (recordCall call).sink (context, log) (recordCall call).observer =
        some (result, d', (context', log')) ∧
      RunInv cfg observed (acc ++ d.acceptedOf call) d' log' ∧ log <+: log' ∧
      (result = .ok () → refStep cfg d'.synchronized d'.bytes = none ∧
        d'.pendingSize < kSyncPacketCount * kPacketSize) ∧
      (result = .error .slowConsumer → ∃ call ∈ log', call.failed = true) := by
  obtain ⟨⟨ev, ht, hm⟩, hroom⟩ := h
  by_cases ha : d.Accepts call
  · obtain ⟨d₁, hc, ht₁⟩ := copyInput_spec ht ha.2.1 ha.2.2.2.2.2
    obtain ⟨input, sink, observer⟩ := call
    cases sink with
    | none => simp [TaggedTsDemux.Accepts] at ha
    | some sink =>
      have hrec : d.Accepts (recordCall ⟨input, some sink, observer⟩) :=
        (accepts_recordCall d _).2 ha
      obtain ⟨result, d', c', log', hl, ⟨ev', calls, rfl, hm', ht'⟩, hok, herr⟩ :=
        loop_spec sink observer (d₁.pendingSize + 1) ev d₁ context log ht₁ (Nat.lt_succ_self _)
      refine ⟨result, d', c', _, ?_, ⟨⟨ev ++ ev', ?_, ?_⟩, ?_⟩, List.prefix_append _ _, hok,
        fun he => herr _ he⟩
      · show d.push input (some (recordSink sink)) (context, log) (observer.map recordObserver) = _
        rw [push_accepted (context, log) hrec, hc, Option.bind_some, hl]
      · rwa [TaggedTsDemux.acceptedOf, if_pos ha]
      · exact hm.append
          ⟨hm'.emitted, fun ho => hm'.ordered (hobs ho), fun ho => hm'.observed (hobs ho)⟩
      · match result, hok, herr with
        | .ok (), hok, _ => exact .inl (hok rfl).2
        | .error e, _, herr => exact .inr (herr e rfl)
  · obtain ⟨e, hp, he⟩ := push_refused (recordCall call) (context, log)
      (fun hc => ha ((accepts_recordCall d call).1 hc))
    refine ⟨.error e, d, context, log, hp, ⟨⟨ev, ?_, hm⟩, hroom⟩, List.prefix_refl _, nofun,
      fun h => ?_⟩
    · rwa [TaggedTsDemux.acceptedOf, if_neg ha, List.append_nil]
    · rcases hroom with hroom | hroom
      · cases h
        exact absurd (Nat.le_of_lt hroom) (he rfl)
      · exact hroom

/-- All bytes that a run of calls copies into the buffer. -/
def acceptedBytes : TaggedTsDemux → σ → List (PushCall σ) → List UInt8
  | _, _, [] => []
  | d, context, call :: calls =>
    d.acceptedOf call ++
      match d.push call.input call.sink context call.observer with
      | some (_, d, context) => acceptedBytes d context calls
      | none => []

/-- **Runs** of recorded calls. -/
theorem pushAll_spec {cfg : Config} {observed : Bool} :
    ∀ (calls : List (PushCall σ)) (acc : List UInt8) (d : TaggedTsDemux) (context : σ)
      (log : List Call), RunInv cfg observed acc d log →
      (∀ call ∈ calls, observed = true → call.observer.isSome = true) →
      ∃ results d' context' log',
        pushAll d (context, log) (calls.map recordCall) = some (results, d', (context', log')) ∧
        RunInv cfg observed (acc ++ acceptedBytes d (context, log) (calls.map recordCall)) d' log' ∧
        log <+: log' ∧
        (results.getLast? = some (.ok ()) → refStep cfg d'.synchronized d'.bytes = none ∧
          d'.pendingSize < kSyncPacketCount * kPacketSize) ∧
        (.error .slowConsumer ∈ results → ∃ call ∈ log', call.failed = true)
  | [], acc, d, context, log, h, _ => by
    refine ⟨[], d, context, log, rfl, ?_, List.prefix_refl _, nofun, nofun⟩
    rwa [List.map_nil, acceptedBytes, List.append_nil]
  | call :: calls, acc, d, context, log, h, hobs => by
    obtain ⟨r, d₁, c₁, log₁, hp, h₁, hpre, hok, hslow⟩ :=
      push_spec h call context (hobs call List.mem_cons_self)
    obtain ⟨rs, d', c', log', hps, h', hpre', hok', hslow'⟩ :=
      pushAll_spec calls (acc ++ d.acceptedOf call) d₁ c₁ log₁ h₁
        (fun call' hc => hobs call' (List.mem_cons_of_mem _ hc))
    have hp' : d.push (recordCall call).input (recordCall call).sink (context, log)
        (recordCall call).observer = some (r, d₁, (c₁, log₁)) := hp
    have hacc : acceptedBytes d (context, log) ((call :: calls).map recordCall) =
        d.acceptedOf call ++ acceptedBytes d₁ (c₁, log₁) (calls.map recordCall) := by
      have hof : d.acceptedOf (recordCall call) = d.acceptedOf call := by
        simp only [TaggedTsDemux.acceptedOf, accepts_recordCall]
        rfl
      rw [List.map_cons, acceptedBytes, hof, hp']
    refine ⟨r :: rs, d', c', log', ?_, ?_, hpre.trans hpre', fun hl => ?_, fun hs => ?_⟩
    · simp [pushAll, hp', hps]
    · rw [hacc, ← List.append_assoc]
      exact h'
    · cases rs with
      | nil =>
        -- the last call is this one: the rest of the run is empty
        cases calls with
        | nil =>
          simp only [List.map_nil, pushAll, Option.some.injEq, Prod.mk.injEq] at hps
          obtain ⟨-, rfl, -⟩ := hps
          exact hok (by simpa using hl)
        | cons call' calls =>
          exfalso
          simp only [List.map_cons, pushAll, Option.bind_eq_bind, Option.bind_eq_some_iff] at hps
          obtain ⟨_, _, _, _, hnil⟩ := hps
          simp at hnil
      | cons r' rs => exact hok' (by simpa using hl)
    · rcases List.mem_cons.1 hs with rfl | hs
      · obtain ⟨call, hc, hf⟩ := hslow rfl
        exact ⟨call, hpre'.subset hc, hf⟩
      · exact hslow' hs

/-- A new demultiplexer with its buffer allocated. -/
theorem runInv_new (cfg : Config) (observed : Bool) (mem : Nat → UInt8) :
    RunInv cfg observed [] (.new cfg.maxTag cfg.plainTs (some mem)) [] :=
  ⟨⟨[], ⟨⟨rfl, rfl⟩, ⟨mem, rfl⟩, Nat.zero_le _, .refl _ _, rfl⟩, .nil _⟩,
    .inl (Nat.succ_pos 751)⟩

/-- Successive pushes of `inputs` with one sink and one observer, recorded. -/
def feed (sink : PacketSink σ) (observer : InvalidTagObserver σ) (inputs : List ByteView) :
    List (PushCall (σ × List Call)) :=
  inputs.map fun input => recordCall ⟨input, some sink, some observer⟩

/-- **The demultiplexer is the reference parser**, however its input is cut into pushes and whenever
the sink fails: when the pushes have copied the bytes `b` in all and the last one succeeded, the
successful sink calls, the observer's calls and the counters are the parser's on `b`; before that
the successful calls are a beginning of them. -/
theorem pushAll_eq_reference (cfg : Config) (mem : Nat → UInt8) (sink : PacketSink σ)
    (observer : InvalidTagObserver σ) (context : σ) (inputs : List ByteView) (b : List UInt8)
    (hb : acceptedBytes (.new cfg.maxTag cfg.plainTs (some mem)) (context, [])
      (feed sink observer inputs) = b) :
    ∃ results d context' log,
      pushAll (.new cfg.maxTag cfg.plainTs (some mem)) (context, []) (feed sink observer inputs) =
        some (results, d, (context', log)) ∧
      log.filterMap Call.emitted? <+: referencePackets cfg b ∧
      (results.getLast? = some (.ok ()) →
        log.filterMap Call.emitted? = referencePackets cfg b ∧
        log.filterMap Call.observed? = referenceObserved cfg b ∧
        d.counters = referenceCounters cfg b) := by
  have hfeed : feed sink observer inputs =
      (inputs.map fun input => (⟨input, some sink, some observer⟩ : PushCall σ)).map
      recordCall := by
    rw [List.map_map]
    rfl
  rw [hfeed] at hb ⊢
  obtain ⟨results, d, c', log, hrun, ⟨⟨ev, ht, hm⟩, -⟩, -, hok, -⟩ :=
    pushAll_spec (inputs.map fun input => (⟨input, some sink, some observer⟩ : PushCall σ)) [] _
      context [] (runInv_new cfg true mem) (by simp)
  rw [hb, List.nil_append] at ht
  refine ⟨results, d, c', log, hrun, ?_, fun hl => ?_⟩
  · rw [hm.emitted, referencePackets, referenceEvents, ht.reach.run_eq, List.filterMap_append]
    exact List.prefix_append _ _
  · have hend := ht.reach.run_eq_of_none (hok hl).1
    have hev : referenceEvents cfg b = ev := by rw [referenceEvents, hend]
    have hrest : referenceRest cfg b = d.bytes := by rw [referenceRest, hend]
    refine ⟨?_, ?_, ?_⟩
    · rw [hm.emitted, referencePackets, hev]
    · rw [hm.observed rfl, referenceObserved, hev]
    · rw [ht.counters, referenceCounters, hev, hrest]

/-- Four packets for receiver 0, the last of them with its error bit set, then a retry with nothing:
the sink refuses its first call. -/
theorem pushAll_eq_reference_retry :
    let cfg : Config := ⟨4, false⟩
    let packet : List UInt8 := 0x17 :: List.replicate 187 0
    let b := packet ++ packet ++ packet ++ (0x97 :: List.replicate 187 0)
    let sink : PacketSink Nat := fun n _ _ => (n + 1, if n = 0 then .error .busy else .ok ())
    let calls := feed sink (fun n _ => n) [.of b, .of []]
    ∃ results d context' log,
      pushAll (.new cfg.maxTag cfg.plainTs (some fun _ => 0)) (0, []) calls =
        some (results, d, (context', log)) ∧
      results = [.error .busy, .ok ()] ∧
      log.filterMap Call.emitted? = referencePackets cfg b ∧
      log.filterMap Call.observed? = referenceObserved cfg b ∧
      d.counters = referenceCounters cfg b := by
  intro cfg packet b sink calls
  have hb : acceptedBytes (.new cfg.maxTag cfg.plainTs (some fun _ => 0)) (0, []) calls = b := by
    decide +kernel
  have hres : (pushAll (.new cfg.maxTag cfg.plainTs (some fun _ => 0)) (0, []) calls).map (·.1) =
      some [.error .busy, .ok ()] := by
    decide +kernel
  obtain ⟨results, d, c', log, hrun, -, hok⟩ :=
    pushAll_eq_reference cfg (fun _ => 0) sink (fun n _ => n) 0 [.of b, .of []] b hb
  have hr : results = [.error .busy, .ok ()] := by
    have := congrArg (Option.map (·.1)) hrun
    rw [hres] at this
    simpa using this.symm
  exact ⟨results, d, c', log, hrun, hr, hok (by rw [hr]; rfl)⟩

/-- Without its buffer the demultiplexer refuses every call. -/
theorem pushAll_unallocated :
    ∀ (calls : List (PushCall σ)) (d : TaggedTsDemux) (context : σ), d.pending = none →
      d.pendingSize = 0 →
      ∃ results, pushAll d context calls = some (results, d, context) ∧
        acceptedBytes d context calls = [] ∧ ∀ r ∈ results, ∃ e, r = .error e ∧ e ≠ .slowConsumer
  | [], _, _, _, _ => ⟨[], rfl, rfl, nofun⟩
  | call :: calls, d, context, hp, hs => by
    have hn : ¬ d.Accepts call := fun ha => by simpa [hp] using ha.2.2.2.1
    obtain ⟨e, hpush, he⟩ := push_refused _ context hn
    obtain ⟨rs, hrs, hacc, hall⟩ := pushAll_unallocated calls d context hp hs
    refine ⟨.error e :: rs, ?_, ?_, ?_⟩
    · simp [pushAll, hpush, hrs]
    · rw [acceptedBytes, hpush, TaggedTsDemux.acceptedOf, if_neg hn]
      exact hacc
    · intro r hr
      rcases List.mem_cons.1 hr with rfl | hr
      · exact ⟨e, rfl, fun h => he h (by rw [hs]; exact Nat.zero_le _)⟩
      · exact hall r hr

/-- **Capacity and conservation** in every state that pushes reach, with any inputs, sinks and
observers: no access leaves the buffer (the run is defined), the pending bytes lie inside it, every
accepted byte is accounted for, a success leaves less than four packets pending, and a push is
refused with `SLOW_CONSUMER` only after a sink call has failed. -/
theorem pushAll_conserves (maxTag : UInt8) (plainTs : Bool) (alloc : Option (Nat → UInt8))
    (context : σ) (calls : List (PushCall σ)) :
    ∃ results d context' log,
      pushAll (.new maxTag plainTs alloc) (context, []) (calls.map recordCall) =
        some (results, d, (context', log)) ∧
      d.pendingOffset + d.pendingSize ≤ kPendingCapacity ∧
      (acceptedBytes (.new maxTag plainTs alloc) (context, []) (calls.map recordCall)).length =
        kPacketSize * ((log.filterMap Call.emitted?).length + d.invalidTagPackets) +
          d.discardedSyncSearchBytes + d.pendingSize ∧
      (results.getLast? = some (.ok ()) → d.pendingSize < 752) ∧
      (.error .slowConsumer ∈ results → ∃ call ∈ log, call.failed = true) := by
  cases alloc with
  | none =>
    obtain ⟨rs, hrun, hacc, hall⟩ := pushAll_unallocated (calls.map recordCall)
      (.new maxTag plainTs none) (context, []) rfl rfl
    refine ⟨rs, _, context, [], hrun, Nat.zero_le _, by rw [hacc]; rfl, fun hl => ?_, fun hs => ?_⟩
    · exact Nat.succ_pos 751
    · obtain ⟨e, he, hne⟩ := hall _ hs
      cases he
      exact absurd rfl hne
  | some mem =>
    obtain ⟨rs, d, c', log, hrun, ⟨⟨ev, ht, hm⟩, -⟩, -, hok, hslow⟩ :=
      pushAll_spec calls [] _ context [] (runInv_new ⟨maxTag, plainTs⟩ false mem)
        (fun _ _ h => nomatch h)
    obtain ⟨h1, h2, h3, h4, h5⟩ := ht.fields
    refine ⟨rs, d, c', log, hrun, ht.bound, ?_, fun hl => (hok hl).2, hslow⟩
    have hsize := reach_size ht.reach
    rw [List.nil_append, sum_size, ht.bytes_length] at hsize
    have hemit : (log.filterMap Call.emitted?).length = ev.countP Event.isPacket := by
      rw [hm.emitted, List.length_filterMap_eq_countP]
      congr 1
      funext e
      cases e <;> rfl
    rw [hemit, h3, h4]
    exact hsize.symm

end Px4.Ts
