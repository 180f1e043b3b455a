import Px4.Stream.EventLifetime
import Px4.Usb.Proof.Buffers

/-!
# Events and the threads that stop a bridge

`LifetimeInv`: the transport is well formed and holds the buffer of the event that the pump is
pushing. Only a thread that drains can take it away, by freeing the stream.

* `client_cases`, `attach_cases` — what the steps of the client threads do to the transport and the
  pump.
* `event_lifetime_iff` — the event that the pump is pushing is intact at every step of a run,
  exactly when every step of the run meets `DrainCond`.
-/

namespace Px4.Stream

open Usb Usb.Transport

/-! ## Held buffers are intact -/

theorem holds_intact {t : Transport} {buffer : Nat} (h : t.Wf) (hh : t.Holds buffer) :
    t.intact buffer = true := by
  obtain ⟨st, hst, hheld⟩ := hh
  have hwf : st.Wf := hst.elim (fun hst => (h.stream st hst).1) fun hst => (h.leaked st hst).1
  have hstates : t.states = [st] := by
    rcases hst with hst | hst
    · simp [Transport.states, hst, h.leaked_none hst]
    · obtain ⟨-, hnone, -⟩ := h.leaked st hst
      simp [Transport.states, hst, hnone]
  have howns : st.owns buffer = true := by
    simp only [StreamState.owns, List.any_eq_true, List.mem_range, Bool.or_eq_true, beq_iff_eq]
    rcases hheld with ⟨i, hi, -, -, hb⟩ | ⟨i, hi, -, hb⟩
    · exact ⟨i, hi, .inl hb⟩
    · exact ⟨i, hi, .inr hb⟩
  have hlent : st.lent buffer = false := by
    simp only [StreamState.lent, List.any_eq_false, List.mem_range, Bool.and_eq_true, beq_iff_eq,
      not_and]
    intro j hj hsub hbuf
    rcases hheld with ⟨i, hi, -, hc, hb⟩ | ⟨i, hi, -, hb⟩
    · have hij := hwf.slots i hi j hj (hb.trans hbuf.symm)
      rw [hij, hsub] at hc
      cases hc
    · exact hwf.apart j hj i hi (hbuf.trans hb.symm)
  simp [Transport.intact, hstates, howns, hlent]

/-! ## The steps of the client threads -/

section

variable {s : Plane} {env : CancelEnv}

theorem cleanup_drains {phase : Cleanup} {t : Transport} (h : t.Wf) (hd : phase.drains = true) :
    DrainStep t (phase.step env t).1 := by
  have hafter (drain : Drain → Cleanup) (ended : Option Error → Cleanup)
      (r : Transport × DrainOutcome) : (Cleanup.after drain ended r).1 = r.1 := by
    obtain ⟨t, outcome⟩ := r
    cases outcome <;> rfl
  cases phase with
  | cancel => simp only [Cleanup.step, hafter]; exact cancelStream_cases h env
  | cancelDrain d => simp only [Cleanup.step, hafter]; exact drainCheck_cases t env _
  | stop first => simp only [Cleanup.step, hafter]; exact cancelStream_cases h env
  | stopDrain first d => simp only [Cleanup.step, hafter]; exact drainCheck_cases t env _
  | _ => cases hd

/-- A step that leaves the transport alone; the pump may have been joined. -/
structure Aside (s s' : Plane) : Prop where
  transport : s'.transport = s.transport
  pump : s'.pump = s.pump ∨ s'.pump = .none

theorem endSessions_aside (s : Plane) (id : Nat) : Aside s (s.endSessions id) := by
  unfold Plane.endSessions
  split <;> exact ⟨rfl, .inl rfl⟩

theorem detach_aside (cfg : Config) (index : Nat) (s : Plane) (id : Nat)
    (attachment : TunerAttachment) : Aside s (s.detach cfg index id attachment) := by
  simp only [Plane.detach]
  split
  · exact ⟨rfl, .inl rfl⟩
  split
  · exact ⟨rfl, .inl rfl⟩
  split <;> exact ⟨rfl, .inl rfl⟩

theorem stopBridge_aside (s : Plane) (id : Nat) (owns : Bool) :
    Aside s (s.stopBridge id owns) := by
  simp only [Plane.stopBridge]
  split
  · exact ⟨rfl, .inl rfl⟩
  split <;> exact ⟨rfl, .inl rfl⟩

theorem joinThread_aside (s : Plane) (id : Nat) (claim : Claim) (first : Option Error) :
    Aside s (s.joinThread id claim first) := by
  unfold Plane.joinThread
  split
  · exact ⟨rfl, .inl rfl⟩
  · refine ⟨rfl, ?_⟩
    cases claim.thread
    · exact .inl rfl
    · exact .inr rfl

theorem stopped_aside (s : Plane) (id : Nat) (first : Option Error) :
    Aside s (s.stopped id first) := by
  unfold Plane.stopped
  split <;> exact ⟨rfl, .inl rfl⟩

theorem returned_aside (s : Plane) (id : Nat) (result : Result Unit) :
    Aside s (s.returned id result) := by
  unfold Plane.returned
  split <;> exact ⟨rfl, .inl rfl⟩

/-- What a step of a client thread does: it drains, or it leaves the transport alone. -/
inductive ClientMove (s : Plane) (drains : Bool) (s' : Plane) : Prop
  | drain (hd : drains = true) (hpump : s'.pump = s.pump)
      (hstep : DrainStep s.transport s'.transport)
  | aside (hd : drains = false) (h : Aside s s')

/-- **A step of a client thread.** -/
theorem client_cases (h : s.transport.Wf) (id : Nat) (env : CancelEnv) :
    ClientMove s (s.clients id).drains (s.client id env) := by
  cases hc : s.clients id with
  | idle =>
    simp only [Plane.client, hc]
    exact .aside rfl ⟨rfl, .inl rfl⟩
  | startDraining receiver d =>
    have hdrain : DrainStep s.transport (s.transport.drainResume env d).1 :=
      drainCheck_cases s.transport env _
    simp only [Plane.client, hc]
    split <;> rename_i heq <;> rw [heq] at hdrain <;> exact .drain rfl rfl hdrain
  | startCleanup receiver phase =>
    cases phase with
    | ended first =>
      simp only [Plane.client, hc]
      exact .aside rfl ⟨rfl, .inl rfl⟩
    | join first =>
      simp only [Plane.client, hc]
      exact .aside rfl ⟨rfl, .inl rfl⟩
    | _ =>
      simp only [Plane.client, hc]
      exact .drain rfl rfl (cleanup_drains h rfl)
  | shutdown =>
    simp only [Plane.client, hc]
    exact .aside rfl (endSessions_aside s id)
  | stopBridge owns =>
    simp only [Plane.client, hc]
    exact .aside rfl (stopBridge_aside s id owns)
  | stopping claim phase =>
    cases phase with
    | ended first =>
      simp only [Plane.client, hc]
      exact .aside rfl (stopped_aside s id first)
    | join first =>
      simp only [Plane.client, hc]
      exact .aside rfl (joinThread_aside s id claim first)
    | _ =>
      simp only [Plane.client, hc]
      exact .drain rfl rfl (cleanup_drains h rfl)
  | returning result =>
    simp only [Plane.client, hc]
    exact .aside rfl (returned_aside s id result)

/-! ## Attach -/

/-- What an attach does to the transport and the pump: nothing, or a start. -/
theorem attach_cases (cfg : Config) (index client : Nat) (attachment : TunerAttachment)
    (env : BridgeAttachEnv) (s : Plane) :
    let s' := s.attach cfg index client attachment env
    s'.transport = s.transport ∧ s'.pump = s.pump ∨
      s'.transport = (s.transport.startStream Plane.streamConfig env.start).1 ∧
        (s'.pump = s.pump ∨ s'.pump = .top) := by
  intro s'
  simp only [s', Plane.attach]
  split
  · exact .inl ⟨rfl, rfl⟩
  split
  · exact .inl ⟨rfl, rfl⟩
  split
  · exact .inl ⟨rfl, rfl⟩
  split
  · exact .inl ⟨rfl, rfl⟩
  split
  · exact .inl ⟨rfl, rfl⟩
  split
  · unfold Plane.startBridge
    split
    · exact .inl ⟨rfl, rfl⟩
    · split <;> rename_i heq <;> rw [heq]
      · unfold Plane.startThread
        split
        · exact .inr ⟨rfl, .inr rfl⟩
        · exact .inr ⟨rfl, .inl rfl⟩
      · exact .inr ⟨rfl, .inl rfl⟩
      · exact .inr ⟨rfl, .inl rfl⟩
  · exact .inl ⟨rfl, rfl⟩

/-! ## The invariant -/

/-- The transport holds the buffer of the event that the pump is pushing. -/
structure LifetimeInv (s : Plane) : Prop where
  wf : s.transport.Wf
  held : ∀ event, s.pump.event = some event → s.transport.Holds event.buffer

theorem LifetimeInv.intact (h : LifetimeInv s) : EventIntact s := by
  simp only [EventIntact, Option.all_eq_true]
  intro event hevent
  exact holds_intact h.wf (h.held event (by simpa using hevent))

/-- The pump is where it was, or not pushing. -/
theorem LifetimeInv.keep {s' : Plane} (h : LifetimeInv s) (hwf : s'.transport.Wf)
    (hpump : s'.pump = s.pump ∨ s'.pump.event = none)
    (hholds : ∀ event, s.pump.event = some event → s.transport.Holds event.buffer →
      s'.transport.Holds event.buffer) : LifetimeInv s' := by
  refine ⟨hwf, fun event hevent => ?_⟩
  rcases hpump with hpump | hpump
  · rw [hpump] at hevent
    exact hholds event hevent (h.held event hevent)
  · rw [hpump] at hevent; cases hevent

theorem LifetimeInv.aside {s' : Plane} (h : LifetimeInv s) (ha : Aside s s') :
    LifetimeInv s' := by
  obtain ⟨htransport, hpump⟩ := ha
  refine h.keep (by rw [htransport]; exact h.wf) (hpump.imp_right fun hp => by rw [hp]; rfl)
    fun _ _ hh => ?_
  rw [htransport]
  exact hh

theorem LifetimeInv.attach (h : LifetimeInv s) (cfg : Config) (index client : Nat)
    (attachment : TunerAttachment) (env : BridgeAttachEnv) :
    LifetimeInv (s.attach cfg index client attachment env) := by
  have hcases := attach_cases cfg index client attachment env s
  rcases hcases with ⟨ht, hp⟩ | ⟨ht, hp⟩
  · exact h.keep (by rw [ht]; exact h.wf) (.inl hp) fun _ _ hh => by rw [ht]; exact hh
  · refine h.keep (by rw [ht]; exact h.wf.startStream _ _) (hp.imp_right fun hp => by rw [hp]; rfl)
      fun event _ hh => ?_
    obtain ⟨e, heq⟩ := startStream_refused h.wf hh Plane.streamConfig env.start
    rw [ht, heq]
    exact hh

/-- The pump pushes what `wait_stream` has returned. -/
theorem afterWait_event {result : Result StreamEvent} {event : StreamEvent}
    (h : (Plane.afterWait result).event = some event) : result = .ok event := by
  cases result with
  | ok event' =>
    simp only [Plane.afterWait] at h
    split at h
    · cases h
    · cases h; rfl
  | error e =>
    simp only [Plane.afterWait] at h
    split at h <;> cases h

theorem LifetimeInv.pumpStep (h : LifetimeInv s) (env : PumpEnv) :
    LifetimeInv (s.pumpStep env) := by
  unfold Plane.pumpStep
  cases hp : s.pump with
  | none => exact h
  | done => exact h
  | top =>
    simp only
    split
    · exact h
    · refine h.keep h.wf (.inr ?_) fun _ _ hh => hh
      simp only
      split <;> rfl
  | wait =>
    obtain ⟨hwf, hheld⟩ := h.wf.waitEnter env.submit
    simp only
    split <;> rename_i heq <;> rw [heq] at hwf hheld
    · refine ⟨hwf, fun event hevent => hheld event ?_⟩
      rw [afterWait_event hevent]
    · exact h.keep hwf (.inr rfl) fun _ hevent => by rw [hp] at hevent; cases hevent
  | events =>
    obtain ⟨hwf, hheld⟩ := h.wf.waitResume env.events
    exact ⟨hwf, fun event hevent => hheld event (afterWait_event hevent)⟩
  | pushing event =>
    refine h.keep h.wf (.inr ?_) fun _ _ hh => hh
    simp only
    split <;> rfl
  | failing =>
    simp only
    split
    · exact h
    split
    · exact h.keep h.wf (.inr rfl) fun _ _ hh => hh
    · exact h.keep h.wf (.inr rfl) fun _ _ hh => hh
  | cleaning phase =>
    have hno (event : StreamEvent) (hevent : s.pump.event = some event) : False := by
      rw [hp] at hevent; cases hevent
    cases phase with
    | ended first =>
      simp only [Plane.pumpCleaned]
      split
      · exact h
      · exact h.keep h.wf (.inr rfl) fun _ _ hh => hh
    | join first => exact h.keep h.wf (.inr rfl) fun _ _ hh => hh
    | _ => exact h.keep ((cleanup_drains h.wf rfl).wf h.wf) (.inr rfl) fun event he =>
        (hno event he).elim

/-- **A client thread**: under `DrainCond` it keeps the event, and without it the event is gone. -/
theorem LifetimeInv.client (h : LifetimeInv s) (id : Nat) (env : CancelEnv) :
    (DrainCond s (.client id env) → LifetimeInv (s.client id env)) ∧
      (¬DrainCond s (.client id env) → ¬EventIntact (s.client id env)) := by
  cases client_cases h.wf id env with
  | aside hd haside =>
    exact ⟨fun _ => h.aside haside, fun hc => absurd (fun _ hd' => by rw [hd] at hd'; cases hd') hc⟩
  | drain hd hpump hstep =>
    refine ⟨fun hc => h.keep (hstep.wf h.wf) (.inl hpump) fun event hevent hh => ?_,
      fun hc hgood => ?_⟩
    · have hout := hc (by rw [hevent]; rfl) hd
      refine hstep.holds h.wf (fun st hst hzero => hout ?_) hh
      simp [Transport.outstanding, hst, hzero]
    · simp only [DrainCond, hd, forall_const, Classical.not_imp, not_not] at hc
      obtain ⟨hpushing, hzero⟩ := hc
      obtain ⟨event, hevent⟩ := Option.isSome_iff_exists.mp hpushing
      obtain ⟨st, hst, hout⟩ := Option.map_eq_some_iff.mp hzero
      simp only [EventIntact, hpump, hevent, Option.all_some] at hgood
      cases hstep with
      | idle hnone => rw [hst] at hnone; cases hnone
      | again hst' hne => rw [hst] at hst'; cases hst'; exact hne hout
      | leak hst' hne => rw [hst] at hst'; cases hst'; exact hne hout
      | free _ _ heq =>
        obtain ⟨hstream, hleaked, -⟩ := heq
        rw [h.wf.leaked_none hst] at hleaked
        simp [Transport.intact, Transport.states, hstream, hleaked] at hgood

/-- **Every step**: under `DrainCond` it keeps the event, and without it the event is gone. -/
theorem LifetimeInv.step (cfg : Config) (index : Nat) (h : LifetimeInv s) (act : Plane.Act) :
    (DrainCond s act → LifetimeInv (s.step cfg index act)) ∧
      (¬DrainCond s act → ¬EventIntact (s.step cfg index act)) := by
  have hother (hcond : DrainCond s act) (hinv : LifetimeInv (s.step cfg index act)) :
      (DrainCond s act → LifetimeInv (s.step cfg index act)) ∧
        (¬DrainCond s act → ¬EventIntact (s.step cfg index act)) :=
    ⟨fun _ => hinv, fun hc => absurd hcond hc⟩
  cases act with
  | attach client attachment env => exact hother trivial (h.attach cfg index client attachment env)
  | detach client attachment =>
    exact hother trivial (h.aside (detach_aside cfg index s client attachment))
  | shutdown client =>
    refine hother trivial ?_
    simp only [Plane.step]
    split
    · exact h.aside ⟨rfl, .inl rfl⟩
    · exact h
  | client id env => exact h.client id env
  | pump env => exact hother trivial (h.pumpStep env)
  | callback completion =>
    refine hother trivial (h.keep (h.wf.onTransfer completion) (.inl rfl) fun _ _ hh => ?_)
    exact h.wf.onTransfer_holds completion hh
  | enclosureFatal => exact hother trivial (h.aside ⟨rfl, .inl rfl⟩)

theorem lifetimeInv_init : LifetimeInv {} := by
  refine ⟨⟨fun st hst => ?_, fun st hst => ?_⟩, fun event hevent => ?_⟩
  · cases hst
  · cases hst
  · cases hevent

end

/-- **The lifetime of an event, exactly when.** At every step of a run the buffer of the event that
the pump is pushing has neither been freed nor been given back to libusb, exactly when at every step
of the run a thread that comes to the loop of `cancel_and_drain_locked` while the pump is pushing
finds a transfer outstanding. -/
theorem event_lifetime_iff (cfg : Config) (index : Nat) (acts : List Plane.Act) :
    Lib.AllSteps (fun s act => Plane.step s cfg index act)
        (fun s act => EventIntact (s.step cfg index act)) {} acts ↔
      Lib.AllSteps (fun s act => Plane.step s cfg index act) DrainCond {} acts :=
  Lib.allSteps_iff
    (fun _ act h hc => ⟨(h.step cfg index act).1 hc, ((h.step cfg index act).1 hc).intact⟩)
    (fun _ act h hc => (h.step cfg index act).2 hc) acts lifetimeInv_init

/-- The last detach while the pump is in `demux.push`: it cancels the stream before it joins the
pump, the six transfers come back cancelled, and the stream is freed with the event's buffer. -/
theorem event_lifetime_broken :
    let acts : List Plane.Act :=
      [.attach 0 firstClient { start := { transferSize := 188 * 816 } }, .pump {}, .pump {},
        .callback ⟨0, 0, .completed, 188, {}⟩, .pump {}, .detach 1 firstClient, .client 1 {},
        .client 1 {}] ++
      (List.range 6).map (fun i => .callback ⟨i, i, .cancelled, 0, {}⟩) ++ [.client 1 {}]
    let s := acts.foldl (fun s act => s.step q3u4Config 0 act) {}
    s.pump = .pushing ⟨.shortTransfer, 0, 188⟩ ∧ s.transport.states.isEmpty = true ∧
      ¬EventIntact s := by
  decide +kernel

end Px4.Stream
