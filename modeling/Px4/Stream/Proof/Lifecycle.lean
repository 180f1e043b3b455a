import Px4.Lib.Tally
import Px4.Stream.Lifecycle

/-!
# The lifecycle of a bridge is kept, where no epoch is ended by another's `detach`

* `Stage` is where a bridge can be: the state and the thread object, the pump that is left, the
  client that owns the cleanup, and the calls of the transport so far. `Guard` says which clients
  can be in `stop_bridge`: none while a session is attached, and one at most before a shutdown.
* `Stage.step`, `Guard.step`: one step keeps both, if it meets `Cond`.
* `lifecycle_owed`: in a run whose steps meet `Cond` every state reached has what is owed (`Owed`);
  `lifecycle_not_owed` is a run in which a `detach` ends the epoch of another.
-/

namespace Px4.Stream.Lifecycle

/-! ## Where a bridge can be -/

/-- The client is not in `stop_bridge`. -/
def Client.free : Client → Bool
  | .idle | .shutdown | .storing _ | .returning _ => true
  | _ => false

/-- The client has claimed nothing. -/
def Client.calm (point : Client) : Bool := point.free || point == .stopBridge false

/-- A pump that no longer cleans up. -/
def Pump.leaving (point : Pump) : Prop := point = .running ∨ point = .failing ∨ point = .done

/-- The calls after a cleanup with this error. -/
def Phase.after (first : Option Error) : Phase := if first.isSome then .dead else .idle

/-- The state, the thread object and the join flag. -/
def Bridge.At (b : Bridge) (state : BridgeState) (thread : Option Nat) (joinInProgress : Bool) :
    Prop :=
  b.state = state ∧ b.thread = thread ∧ b.joinInProgress = joinInProgress

namespace Sys

variable (s : Sys)

/-- The pumps but one are gone. -/
def OnePump (thread : Nat) (point : Pump) : Prop :=
  s.pumps = Function.update (fun _ => .gone) thread point

def Calm : Prop := ∀ c, (s.clients c).calm = true

/-- One client is at `point`, the others have claimed nothing. -/
def Owner (client : Nat) (point : Client) : Prop :=
  s.clients client = point ∧ ∀ c, c ≠ client → (s.clients c).calm = true

end Sys

/-- A pump that cleans up, and the calls it has made. -/
inductive PumpCleans : Pump → Phase → Prop
  | cancelling : PumpCleans .cancelling .live
  | stopping (first : Option Error) : PumpCleans (.stopping first) (.cancelled first.isNone)
  | finishing (first : Option Error) : PumpCleans (.finishing first) (.after first)

/-- A client that cleans up, with the thread it joins, and the calls it has made. -/
inductive ClientCleans (thread : Nat) : Client → Pump → Phase → Prop
  | cancelling {point} (h : Pump.leaving point) :
    ClientCleans thread (.cancelling ⟨some thread, true⟩) point .live
  | joining {point} (h : Pump.leaving point) (first : Option Error) :
    ClientCleans thread (.joining ⟨some thread, true⟩ first) point (.cancelled first.isNone)
  | stopping (first : Option Error) :
    ClientCleans thread (.stopping first) .gone (.cancelled first.isNone)
  | ended (first : Option Error) : ClientCleans thread (.ended first) .gone (.after first)

/-- A client that joins a failed pump. -/
inductive ClientJoins (thread : Nat) : Client → Pump → Prop
  | joining : ClientJoins thread (.joining ⟨some thread, false⟩ none) .done
  | ended : ClientJoins thread (.ended none) .gone

/-- **Where a bridge can be** between two steps. -/
inductive Stage (s : Sys) : Prop
  | stopped (bridge : s.bridge.At .stopped none false) (error : s.bridge.cleanupError = none)
    (pumps : s.pumps = fun _ => .gone) (calm : s.Calm) (phase : s.phase = some .idle)
  | running (t : Nat) (point : Pump) (bridge : s.bridge.At .running (some t) false)
    (error : s.bridge.cleanupError = none) (owed : s.bridge.cleanupDone = false)
    (requested : s.bridge.stopRequested = false) (hpoint : point = .running ∨ point = .failing)
    (pumps : s.OnePump t point) (calm : s.Calm) (phase : s.phase = some .live)
  | pumpCleaning (t : Nat) (point : Pump) (p : Phase)
    (bridge : s.bridge.At .stopping (some t) false) (cleans : PumpCleans point p)
    (pumps : s.OnePump t point) (calm : s.Calm) (phase : s.phase = some p)
  | clientStopping (c t : Nat) (point : Pump) (bridge : s.bridge.At .stopping (some t) false)
    (error : s.bridge.cleanupError = none) (owed : s.bridge.cleanupDone = false)
    (leaving : point.leaving) (pumps : s.OnePump t point)
    (owner : s.Owner c (.stopBridge true)) (phase : s.phase = some .live)
  | clientCleaning (c t : Nat) (point : Pump) (place : Client) (p : Phase)
    (bridge : s.bridge.At .stopping none true) (error : s.bridge.cleanupError = none)
    (requested : s.bridge.stopRequested = true)
    (cleans : ClientCleans t place point p) (pumps : s.OnePump t point) (owner : s.Owner c place)
    (phase : s.phase = some p)
  | pumpFailed (t : Nat) (bridge : s.bridge.At .fatal (some t) false)
    (owed : s.bridge.cleanupDone = true) (pumps : s.OnePump t .done) (calm : s.Calm)
    (phase : s.phase = some (.after s.bridge.cleanupError))
  | joiningFailed (c t : Nat) (point : Pump) (place : Client)
    (bridge : s.bridge.At .fatal none true) (joins : ClientJoins t place point)
    (pumps : s.OnePump t point) (owner : s.Owner c place)
    (phase : s.phase = some (.after s.bridge.cleanupError))
  | failed (bridge : s.bridge.At .fatal none false) (owed : s.bridge.cleanupDone = true)
    (error : s.bridge.cleanupError ≠ none) (pumps : s.pumps = fun _ => .gone) (calm : s.Calm)
    (phase : s.phase = some .dead)

/-- Which clients can be in `stop_bridge`. -/
structure Guard (cfg : Config) (s : Sys) : Prop where
  counted : s.bridge.attachedCount = s.attached cfg
  quiet : s.bridge.attachedCount ≠ 0 → ∀ c, (s.clients c).free = true
  alone : s.shuttingDown = false → ∀ c c', (s.clients c).free = false →
    (s.clients c').free = false → c = c'
  rest : s.bridge.state = .stopped → s.bridge.attachedCount = 0 ∧
    (s.shuttingDown = false → ∀ c, (s.clients c).free = true)
  shutdown : ∀ c, s.clients c = .shutdown → s.shuttingDown = true

/-! ## What a stage does not read -/

variable {s : Sys} {cfg : Config} {index : Nat}

/-- Another count, other sessions and flags. -/
def Sys.relabel (s : Sys) (count : Nat) (sessions : Nat → Option TunerAttachment)
    (enclosureFatal shuttingDown : Bool) : Sys :=
  { s with
    bridge := { s.bridge with attachedCount := count }, sessions, enclosureFatal, shuttingDown }

theorem Stage.relabel (h : Stage s) (count : Nat) (sessions : Nat → Option TunerAttachment)
    (enclosureFatal shuttingDown : Bool) :
    Stage (s.relabel count sessions enclosureFatal shuttingDown) := by
  cases h with
  | stopped bridge error pumps calm phase => exact .stopped bridge error pumps calm phase
  | running t point bridge error owed requested hpoint pumps calm phase =>
    exact .running t point bridge error owed requested hpoint pumps calm phase
  | pumpCleaning t point p bridge cleans pumps calm phase =>
    exact .pumpCleaning t point p bridge cleans pumps calm phase
  | clientStopping c t point bridge error owed leaving pumps owner phase =>
    exact .clientStopping c t point bridge error owed leaving pumps owner phase
  | clientCleaning c t point place p bridge error requested cleans pumps owner phase =>
    exact .clientCleaning c t point place p bridge error requested cleans pumps owner phase
  | pumpFailed t bridge owed pumps calm phase => exact .pumpFailed t bridge owed pumps calm phase
  | joiningFailed c t point place bridge joins pumps owner phase =>
    exact .joiningFailed c t point place bridge joins pumps owner phase
  | failed bridge owed error pumps calm phase => exact .failed bridge owed error pumps calm phase

@[simp] theorem Sys.setClient_self (id : Nat) (point : Client) :
    (s.setClient id point).clients id = point :=
  Function.update_self ..

theorem Sys.setClient_of_ne {id c : Nat} (h : c ≠ id) (point : Client) :
    (s.setClient id point).clients c = s.clients c :=
  Function.update_of_ne h ..

theorem Sys.Calm.set (h : s.Calm) {id : Nat} {point : Client} (hpoint : point.calm = true) :
    (s.setClient id point).Calm := by
  intro c
  rcases eq_or_ne c id with rfl | hc
  · rwa [Sys.setClient_self]
  · rw [Sys.setClient_of_ne hc]
    exact h c

/-- A client that takes what there is to claim. -/
theorem Sys.Calm.owner (h : s.Calm) (id : Nat) (point : Client) :
    (s.setClient id point).Owner id point :=
  ⟨s.setClient_self id point, fun c hc => by rw [Sys.setClient_of_ne hc]; exact h c⟩

/-- The owner goes on. -/
theorem Sys.Owner.move {id : Nat} {point : Client} (h : s.Owner id point) (point' : Client) :
    (s.setClient id point').Owner id point' :=
  ⟨s.setClient_self id point', fun c hc => by rw [Sys.setClient_of_ne hc]; exact h.2 c hc⟩

/-- The owner gives up what it has claimed. -/
theorem Sys.Owner.leave {id : Nat} {point point' : Client} (h : s.Owner id point)
    (hpoint : point'.calm = true) : (s.setClient id point').Calm := by
  intro c
  rcases eq_or_ne c id with rfl | hc
  · rwa [Sys.setClient_self]
  · rw [Sys.setClient_of_ne hc]
    exact h.2 c hc

/-- A client that has claimed nothing is not the owner. -/
theorem Sys.Owner.set {c id : Nat} {place point : Client} (h : s.Owner c place)
    (hplace : place.calm = false) (hold : (s.clients id).calm = true) (hnew : point.calm = true) :
    (s.setClient id point).Owner c place := by
  have hne : c ≠ id := by
    rintro rfl
    rw [h.1, hplace] at hold
    cases hold
  refine ⟨by rw [Sys.setClient_of_ne hne]; exact h.1, fun c' hc' => ?_⟩
  rcases eq_or_ne c' id with rfl | hc
  · rwa [Sys.setClient_self]
  · rw [Sys.setClient_of_ne hc]
    exact h.2 c' hc'

theorem ClientCleans.not_calm {t : Nat} {place : Client} {point : Pump} {p : Phase}
    (h : ClientCleans t place point p) : place.calm = false := by
  cases h <;> rfl

theorem ClientJoins.not_calm {t : Nat} {place : Client} {point : Pump}
    (h : ClientJoins t place point) :
    place.calm = false := by
  cases h <;> rfl

/-- A client that has claimed nothing moves to where it claims nothing. -/
theorem Stage.setClient (h : Stage s) {id : Nat} {point : Client}
    (hold : (s.clients id).calm = true) (hnew : point.calm = true) :
    Stage (s.setClient id point) := by
  cases h with
  | stopped bridge error pumps calm phase => exact .stopped bridge error pumps (calm.set hnew) phase
  | running t p bridge error owed requested hp pumps calm phase =>
    exact .running t p bridge error owed requested hp pumps (calm.set hnew) phase
  | pumpCleaning t p ph bridge cleans pumps calm phase =>
    exact .pumpCleaning t p ph bridge cleans pumps (calm.set hnew) phase
  | clientStopping c t p bridge error owed leaving pumps owner phase =>
    exact .clientStopping c t p bridge error owed leaving pumps (owner.set rfl hold hnew) phase
  | clientCleaning c t p place ph bridge error requested cleans pumps owner phase =>
    exact .clientCleaning c t p place ph bridge error requested cleans pumps
      (owner.set cleans.not_calm hold hnew) phase
  | pumpFailed t bridge owed pumps calm phase =>
    exact .pumpFailed t bridge owed pumps (calm.set hnew) phase
  | joiningFailed c t p place bridge joins pumps owner phase =>
    exact .joiningFailed c t p place bridge joins pumps (owner.set joins.not_calm hold hnew) phase
  | failed bridge owed error pumps calm phase =>
    exact .failed bridge owed error pumps (calm.set hnew) phase

/-! ## The calls of the transport -/

theorem Sys.phase_called (ops : List Op) : (s.called ops).phase = ops.foldl follow s.phase :=
  List.foldl_append

theorem isOk_eq_isNone (result : Result Unit) : result.isOk = (errorOf result).isNone := by
  cases result <;> rfl

/-- A stop ends the cleanup. -/
theorem follow_stop (first : Option Error) (result : Result Unit) :
    follow (some (.cancelled first.isNone)) (.stop result.isOk) =
      some (.after (first.or (errorOf result))) := by
  cases first <;> cases result <;> rfl

/-! ## Pumps -/

theorem Sys.OnePump.at {t : Nat} {point : Pump} (h : s.OnePump t point) : s.pumps t = point := by
  rw [h, Function.update_self]

theorem Sys.OnePump.eq_of_ne {t t' : Nat} {point : Pump} (h : s.OnePump t point)
    (ht : s.pumps t' ≠ .gone) : t' = t := by
  by_contra hne
  exact ht (by rw [h, Function.update_of_ne hne])

theorem Sys.OnePump.set {t : Nat} {point : Pump} (h : s.OnePump t point) (point' : Pump) :
    (s.setPump t point').OnePump t point' := by
  show Function.update s.pumps t point' = _
  rw [h, Function.update_idem]

/-- A pump of a bridge that a client stops does nothing to the bridge. -/
theorem Sys.pump_leaving {t : Nat} {point : Pump} (hpoint : s.pumps t = point)
    (hleaving : point.leaving) (hstate : s.bridge.state = .stopping) (failed : Bool)
    (result : Result Unit) :
    ∃ point', Pump.leaving point' ∧ s.pump t failed result = s.setPump t point' := by
  have hstop : s.stopRequested = true := by simp [Sys.stopRequested, hstate]
  subst hpoint
  rcases hleaving with h | h | h
  · cases failed with
    | true => exact ⟨.failing, .inr (.inl rfl), by simp [Sys.pump, h]⟩
    | false => exact ⟨.done, .inr (.inr rfl), by simp [Sys.pump, h, hstop]⟩
  · exact ⟨.done, .inr (.inr rfl), by simp [Sys.pump, h, hstate]⟩
  · refine ⟨.done, .inr (.inr rfl), ?_⟩
    simp only [Sys.pump, h]
    rw [Sys.setPump, ← h, Function.update_eq_self]

/-- The step of the pump of a running bridge. -/
theorem Stage.pump_running {t : Nat} {point : Pump} (bridge : s.bridge.At .running (some t) false)
    (error : s.bridge.cleanupError = none) (owed : s.bridge.cleanupDone = false)
    (requested : s.bridge.stopRequested = false) (hpoint : point = .running ∨ point = .failing)
    (pumps : s.OnePump t point) (calm : s.Calm) (phase : s.phase = some .live) (failed : Bool)
    (result : Result Unit) : Stage (s.pump t failed result) := by
  rcases hpoint with rfl | rfl
  · cases failed with
    | true =>
      simp only [Sys.pump, pumps.at, if_true]
      exact .running t .failing bridge error owed requested (.inr rfl) (pumps.set _) calm phase
    | false =>
      have hstop : s.stopRequested = false := by simp [Sys.stopRequested, requested, bridge.1]
      simp only [Sys.pump, pumps.at, hstop, Bool.false_eq_true, if_false]
      exact .running t .running bridge error owed requested (.inl rfl) pumps calm phase
  · simp only [Sys.pump, pumps.at, bridge.1, owed, ne_eq, not_true, Bool.false_eq_true, or_self,
      if_false]
    exact .pumpCleaning t .cancelling .live ⟨rfl, bridge.2⟩ .cancelling (pumps.set _) calm phase

/-- The step of a pump that cleans up. -/
theorem Stage.pump_cleaning {t : Nat} {point : Pump} {p : Phase}
    (bridge : s.bridge.At .stopping (some t) false) (cleans : PumpCleans point p)
    (pumps : s.OnePump t point) (calm : s.Calm) (phase : s.phase = some p) (failed : Bool)
    (result : Result Unit) : Stage (s.pump t failed result) := by
  have hat := pumps.at
  cases cleans with
  | cancelling =>
    simp only [Sys.pump, hat]
    refine .pumpCleaning t _ _ bridge (.stopping (errorOf result)) (pumps.set _) calm ?_
    show (s.called _).phase = _
    rw [Sys.phase_called, phase, isOk_eq_isNone]
    rfl
  | stopping first =>
    simp only [Sys.pump, hat]
    refine .pumpCleaning t _ _ bridge (.finishing (first.or (errorOf result))) (pumps.set _) calm ?_
    show (s.called _).phase = _
    rw [Sys.phase_called, phase]
    exact follow_stop first result
  | finishing first =>
    simp only [Sys.pump, hat]
    exact .pumpFailed t ⟨rfl, bridge.2⟩ rfl (pumps.set _) calm phase

theorem Stage.pump (h : Stage s) (thread : Nat) (failed : Bool) (result : Result Unit) :
    Stage (s.pump thread failed result) := by
  by_cases hgone : s.pumps thread = .gone
  · simpa only [Sys.pump, hgone] using h
  cases h with
  | stopped _ _ pumps | failed _ _ _ pumps => exact absurd (by rw [pumps]) hgone
  | running t point bridge error owed requested hpoint pumps calm phase =>
    obtain rfl := pumps.eq_of_ne hgone
    exact Stage.pump_running bridge error owed requested hpoint pumps calm phase failed result
  | pumpCleaning t point p bridge cleans pumps calm phase =>
    obtain rfl := pumps.eq_of_ne hgone
    exact Stage.pump_cleaning bridge cleans pumps calm phase failed result
  | clientStopping c t point bridge error owed leaving pumps owner phase =>
    obtain rfl := pumps.eq_of_ne hgone
    obtain ⟨point', hpoint', heq⟩ := Sys.pump_leaving pumps.at leaving bridge.1 failed result
    rw [heq]
    exact .clientStopping c thread point' bridge error owed hpoint' (pumps.set _) owner phase
  | clientCleaning c t point place p bridge error requested cleans pumps owner phase =>
    obtain rfl := pumps.eq_of_ne hgone
    cases cleans with
    | cancelling leaving =>
      obtain ⟨point', hpoint', heq⟩ := Sys.pump_leaving pumps.at leaving bridge.1 failed result
      rw [heq]
      exact .clientCleaning c thread point' _ _ bridge error requested (.cancelling hpoint')
        (pumps.set _) owner phase
    | joining leaving first =>
      obtain ⟨point', hpoint', heq⟩ := Sys.pump_leaving pumps.at leaving bridge.1 failed result
      rw [heq]
      exact .clientCleaning c thread point' _ _ bridge error requested (.joining hpoint' first)
        (pumps.set _) owner phase
    | stopping | ended => exact absurd pumps.at hgone
  | pumpFailed t bridge owed pumps calm phase =>
    obtain rfl := pumps.eq_of_ne hgone
    simp only [Sys.pump, pumps.at]
    exact .pumpFailed thread bridge owed pumps calm phase
  | joiningFailed c t point place bridge joins pumps owner phase =>
    obtain rfl := pumps.eq_of_ne hgone
    cases joins with
    | joining =>
      simp only [Sys.pump, pumps.at]
      exact .joiningFailed c thread _ _ bridge .joining pumps owner phase
    | ended => exact absurd pumps.at hgone

/-! ## Clients -/

/-- A bridge without attachments is left. -/
theorem Stage.leave (h : Stage s) {id : Nat} (hold : (s.clients id).calm = true) :
    Stage (s.leave id) := by
  by_cases hrun : s.bridge.state = .running
  · rw [Sys.leave, if_pos hrun]
    cases h with
    | running t point bridge error owed requested hpoint pumps calm phase =>
      have hleaving : point.leaving := hpoint.imp_right .inl
      exact .clientStopping id t point ⟨rfl, bridge.2⟩ error owed hleaving pumps
        (calm.owner id _) phase
    | stopped bridge | pumpCleaning _ _ _ bridge | clientStopping _ _ _ bridge
    | clientCleaning _ _ _ _ _ bridge | pumpFailed _ bridge | joiningFailed _ _ _ _ bridge
    | failed bridge => exact absurd (bridge.1.symm.trans hrun) (by decide)
  · rw [Sys.leave, if_neg hrun]
    exact h.setClient hold rfl

/-- `stop_bridge` without the ownership of a stop. -/
theorem Stage.stopBridge_false (h : Stage s) {id : Nat} (hold : (s.clients id).calm = true) :
    Stage (s.stopBridge id false) := by
  have hreturn : ∀ result, Stage (s.setClient id (.returning result)) :=
    fun _ => h.setClient hold rfl
  cases h with
  | stopped bridge error pumps calm phase =>
    simpa [Sys.stopBridge, Sys.settled, bridge.1, bridge.2.1, bridge.2.2] using hreturn _
  | running t point bridge error owed requested hpoint pumps calm phase =>
    have hleaving : point.leaving := hpoint.imp_right .inl
    simp only [Sys.stopBridge, Sys.settled, bridge.1, bridge.2.1, bridge.2.2, owed]
    exact .clientCleaning id t point _ _ ⟨rfl, rfl, rfl⟩ error rfl (.cancelling hleaving) pumps
      (calm.owner id _) phase
  | pumpCleaning t point p bridge cleans pumps calm phase =>
    simp only [Sys.stopBridge, Sys.settled, bridge.1, bridge.2.2]
    exact .pumpCleaning t point p bridge cleans pumps calm phase
  | clientStopping c t point bridge error owed leaving pumps owner phase =>
    simp only [Sys.stopBridge, Sys.settled, bridge.1, bridge.2.2]
    exact .clientStopping c t point bridge error owed leaving pumps owner phase
  | clientCleaning c t point place p bridge error requested cleans pumps owner phase =>
    simp only [Sys.stopBridge, Sys.settled, bridge.1, bridge.2.2]
    exact .clientCleaning c t point place p bridge error requested cleans pumps owner phase
  | pumpFailed t bridge owed pumps calm phase =>
    simp only [Sys.stopBridge, Sys.settled, bridge.1, bridge.2.1, bridge.2.2, owed]
    exact .joiningFailed id t .done _ ⟨rfl, rfl, rfl⟩ .joining pumps (calm.owner id _) phase
  | joiningFailed c t point place bridge joins pumps owner phase =>
    simp only [Sys.stopBridge, bridge.2.2]
    exact .joiningFailed c t point place bridge joins pumps owner phase
  | failed bridge owed error pumps calm phase =>
    simpa [Sys.stopBridge, Sys.settled, bridge.1, bridge.2.1, bridge.2.2] using hreturn _

/-- The owner of a stop claims the cleanup. -/
theorem Stage.stopBridge_true {id t : Nat} {point : Pump}
    (bridge : s.bridge.At .stopping (some t) false) (error : s.bridge.cleanupError = none)
    (owed : s.bridge.cleanupDone = false) (leaving : point.leaving) (pumps : s.OnePump t point)
    (owner : s.Owner id (.stopBridge true)) (phase : s.phase = some .live) :
    Stage (s.stopBridge id true) := by
  simp only [Sys.stopBridge, bridge.1, bridge.2.1, bridge.2.2, owed]
  exact .clientCleaning id t point _ _ ⟨rfl, rfl, rfl⟩ error rfl (.cancelling leaving) pumps
    (owner.move _) phase

/-- The last section of `stop_bridge`. -/
theorem Stage.stopped_section {id : Nat} {place : Client} {first : Option Error}
    (hthread : s.bridge.thread = none) (pumps : s.pumps = fun _ => .gone) (owner : s.Owner id place)
    (phase : s.phase = some (.after (first.or s.bridge.cleanupError))) :
    Stage (s.stopped id first) := by
  unfold Sys.stopped
  cases hfirst : first.or s.bridge.cleanupError with
  | none =>
    rw [hfirst] at phase
    exact .stopped ⟨rfl, hthread, rfl⟩ rfl pumps (owner.leave rfl) phase
  | some e =>
    rw [hfirst] at phase
    exact .failed ⟨rfl, hthread, rfl⟩ rfl (Option.some_ne_none e) pumps (owner.leave rfl) phase

/-- The step of a client that cleans up. -/
theorem Stage.client_cleaning {id t : Nat} {point : Pump} {place : Client} {p : Phase}
    (bridge : s.bridge.At .stopping none true) (error : s.bridge.cleanupError = none)
    (requested : s.bridge.stopRequested = true) (cleans : ClientCleans t place point p)
    (pumps : s.OnePump t point) (owner : s.Owner id place) (phase : s.phase = some p)
    (result : Result Unit) : Stage (s.client id result) := by
  have hat := owner.1
  cases cleans with
  | cancelling leaving =>
    simp only [Sys.client, hat]
    refine .clientCleaning id t point _ _ bridge error requested
      (.joining leaving (errorOf result)) pumps (owner.move _) ?_
    show (s.called _).phase = _
    rw [Sys.phase_called, phase, isOk_eq_isNone]
    rfl
  | joining leaving first =>
    simp only [Sys.client, hat, Sys.join, Option.all_some, pumps.at]
    by_cases hdone : point = .done
    · rw [if_pos (by rw [hdone]; rfl)]
      exact .clientCleaning id t .gone _ _ bridge error requested (.stopping first) (pumps.set _)
        (owner.move _) phase
    · rw [if_neg (by simpa using hdone)]
      exact .clientCleaning id t point _ _ bridge error requested (.joining leaving first) pumps
        owner phase
  | stopping first =>
    simp only [Sys.client, hat]
    refine .clientCleaning id t .gone _ _ bridge error requested
      (.ended (first.or (errorOf result))) pumps (owner.move _) ?_
    show (s.called _).phase = _
    rw [Sys.phase_called, phase]
    exact follow_stop first result
  | ended first =>
    simp only [Sys.client, hat]
    refine Stage.stopped_section bridge.2.1 ?_ owner (by rw [error, Option.or_none]; exact phase)
    rw [pumps, Function.update_eq_self_iff]

/-- The step of a client that joins a failed pump. -/
theorem Stage.client_joining {id t : Nat} {point : Pump} {place : Client}
    (bridge : s.bridge.At .fatal none true) (joins : ClientJoins t place point)
    (pumps : s.OnePump t point) (owner : s.Owner id place)
    (phase : s.phase = some (.after s.bridge.cleanupError)) (result : Result Unit) :
    Stage (s.client id result) := by
  have hat := owner.1
  cases joins with
  | joining =>
    simp only [Sys.client, hat, Sys.join, Option.all_some, pumps.at]
    exact .joiningFailed id t .gone _ bridge .ended (pumps.set _) (owner.move _) phase
  | ended =>
    simp only [Sys.client, hat]
    refine Stage.stopped_section bridge.2.1 ?_ owner phase
    rw [pumps, Function.update_eq_self_iff]

/-- The step of a client that has claimed nothing. -/
theorem Stage.client_calm (h : Stage s) {id : Nat} (hcalm : (s.clients id).calm = true)
    (hcond : ∀ result, s.clients id = .returning result → s.reopens result = false)
    (result : Result Unit) : Stage (s.client id result) := by
  cases hat : s.clients id with
  | idle => simpa only [Sys.client, hat] using h
  | shutdown =>
    simp only [Sys.client, hat, Sys.endSessions]
    split
    · exact h
    · exact (h.relabel 0 (fun _ => none) s.enclosureFatal s.shuttingDown).leave hcalm
  | stopBridge ownsStopping =>
    cases ownsStopping with
    | true => rw [hat] at hcalm; cases hcalm
    | false =>
      simp only [Sys.client, hat]
      exact h.stopBridge_false hcalm
  | storing error =>
    simp only [Sys.client, hat]
    exact (h.relabel s.bridge.attachedCount s.sessions _ s.shuttingDown).setClient hcalm rfl
  | returning outcome =>
    simp only [Sys.client, hat, Sys.returned, hcond outcome hat]
    exact h.setClient hcalm rfl
  | cancelling | joining | stopping | ended => rw [hat] at hcalm; cases hcalm

theorem Sys.reopens_of_cond {id : Nat} {result : Result Unit} (h : Cond s (.client id result))
    (outcome : Result Unit) (hat : s.clients id = .returning outcome) :
    s.reopens outcome = false := by
  simpa only [Cond, Sys.reopening, hat] using h

theorem Stage.client (h : Stage s) (id : Nat) (result : Result Unit)
    (hcond : ∀ outcome, s.clients id = .returning outcome → s.reopens outcome = false) :
    Stage (s.client id result) := by
  cases hcalm : (s.clients id).calm with
  | true => exact h.client_calm hcalm hcond result
  | false =>
    -- only the owner has claimed something
    have howner : ∀ {c place}, s.Owner c place → c = id := by
      intro c place owner
      by_contra hne
      have := owner.2 id (Ne.symm hne)
      rw [hcalm] at this
      cases this
    cases h with
    | clientStopping c t point bridge error owed leaving pumps owner phase =>
      obtain rfl := howner owner
      simp only [Sys.client, owner.1]
      exact Stage.stopBridge_true bridge error owed leaving pumps owner phase
    | clientCleaning c t point place p bridge error requested cleans pumps owner phase =>
      obtain rfl := howner owner
      exact Stage.client_cleaning bridge error requested cleans pumps owner phase result
    | joiningFailed c t point place bridge joins pumps owner phase =>
      obtain rfl := howner owner
      exact Stage.client_joining bridge joins pumps owner phase result
    | stopped _ _ _ calm | running _ _ _ _ _ _ _ _ calm | pumpCleaning _ _ _ _ _ _ calm
    | pumpFailed _ _ _ _ calm | failed _ _ _ _ calm =>
      have := calm id
      rw [hcalm] at this
      cases this

/-! ## Attach, detach -/

/-- `start_bridge_locked` on a stopped bridge. -/
theorem Stage.startBridge (h : Stage s) (receiver : Nat) (env : AttachEnv) :
    Stage (s.startBridge receiver env) := by
  unfold Sys.startBridge
  split
  · exact h.relabel s.bridge.attachedCount _ s.enclosureFatal s.shuttingDown
  next hstart =>
    have hstopped : s.bridge.state = .stopped := by
      by_contra hne
      exact hstart (.inl hne)
    cases h with
    | stopped bridge error pumps calm phase =>
      split
      next hok =>
        unfold Sys.startThread
        split
        · refine .running s.threads .running ⟨rfl, rfl, bridge.2.2⟩ rfl rfl rfl
            (.inl rfl) ?_ calm ?_
          · show Function.update s.pumps s.threads .running = _
            rw [pumps]
          · show (s.called [.start true]).phase = _
            rw [Sys.phase_called, phase]
            rfl
        · have hphase : (s.called [.start true, .cancel env.cancel.isOk, .stop env.stop.isOk]).phase =
              some (.after ((errorOf env.cancel).or (errorOf env.stop))) := by
            rw [Sys.phase_called, phase, isOk_eq_isNone env.cancel]
            exact follow_stop _ _
          dsimp only
          cases hfirst : (errorOf env.cancel).or (errorOf env.stop) with
          | none =>
            rw [hfirst] at hphase
            exact .stopped ⟨rfl, bridge.2⟩ rfl pumps calm hphase
          | some e =>
            rw [hfirst] at hphase
            exact .failed ⟨rfl, bridge.2⟩ rfl (Option.some_ne_none e) pumps calm hphase
      next hok =>
        refine .stopped ⟨bridge.1, bridge.2⟩ rfl pumps calm ?_
        show (s.called [.start false]).phase = _
        rw [Sys.phase_called, phase]
        rfl
    | running _ _ bridge | pumpCleaning _ _ _ bridge | clientStopping _ _ _ bridge
    | clientCleaning _ _ _ _ _ bridge | pumpFailed _ bridge | joiningFailed _ _ _ _ bridge
    | failed bridge => exact absurd (bridge.1.symm.trans hstopped) (by decide)

theorem Stage.attach (h : Stage s) (attachment : TunerAttachment) (env : AttachEnv) :
    Stage (s.attach cfg index attachment env) := by
  unfold Sys.attach
  split_ifs
  any_goals exact h
  dsimp only
  split
  · exact (h.relabel s.bridge.attachedCount _ s.enclosureFatal s.shuttingDown).startBridge _ env
  · exact h.relabel _ _ s.enclosureFatal s.shuttingDown

theorem Stage.detach (h : Stage s) (id : Nat) (attachment : TunerAttachment) :
    Stage (s.detach cfg index id attachment) := by
  unfold Sys.detach
  split
  · exact h
  next hidle =>
    have hclient : s.clients id = .idle := by
      by_contra hne
      exact hidle (.inr (.inl hne))
    split
    · exact h
    dsimp only
    have hrelabel := h.relabel (s.bridge.attachedCount - 1)
      (Function.update s.sessions attachment.receiver none) s.enclosureFatal s.shuttingDown
    split
    · exact hrelabel.leave (show (s.clients id).calm = true by rw [hclient]; rfl)
    · exact hrelabel

/-- **A step keeps the stage**, if it meets the condition. -/
theorem Stage.step (h : Stage s) (act : Sys.Act) (hcond : Cond s act) :
    Stage (s.step cfg index act) := by
  cases act with
  | attach attachment env => exact h.attach attachment env
  | detach client attachment => exact h.detach client attachment
  | shutdown client =>
    unfold Sys.step
    dsimp only
    split
    next hidle =>
      exact (h.relabel s.bridge.attachedCount s.sessions s.enclosureFatal true).setClient
        (show (s.clients client).calm = true by rw [hidle]; rfl) rfl
    · exact h
  | client id result => exact h.client id result (Sys.reopens_of_cond hcond)
  | pump thread failed result => exact h.pump thread failed result
  | enclosureFatal => exact h.relabel s.bridge.attachedCount s.sessions true s.shuttingDown

/-! ## The attached sessions -/

theorem Sys.attached_attach {attachment : TunerAttachment}
    (hserves : Plane.serves cfg index attachment = true)
    (hnone : s.sessions attachment.receiver = none) :
    (s.setSession attachment.receiver (some attachment)).attached cfg = s.attached cfg + 1 := by
  have hr : attachment.receiver < cfg.layout.bridgeCount * cfg.layout.receiversPerBridge := by
    simp only [Plane.serves, validReceiver, Bool.and_eq_true, decide_eq_true_eq] at hserves
    exact hserves.1
  have hchange := Lib.count_change (p := fun r => (s.sessions r).isSome = true)
    (q := fun r =>
      ((s.setSession attachment.receiver (some attachment)).sessions r).isSome = true) hr
    fun i hi => by simp [Sys.setSession, hi]
  simpa [Sys.attached, Sys.setSession, hnone] using hchange

theorem Sys.attached_detach {attachment : TunerAttachment}
    (hserves : Plane.serves cfg index attachment = true)
    (hsome : s.sessions attachment.receiver = some attachment) :
    s.attached cfg = (s.setSession attachment.receiver none).attached cfg + 1 := by
  have hself : (s.setSession attachment.receiver none).setSession attachment.receiver
      (some attachment) = s := by
    unfold Sys.setSession
    dsimp only
    rw [Function.update_idem, ← hsome, Function.update_eq_self]
  have := Sys.attached_attach (s := s.setSession attachment.receiver none) hserves
    (by simp [Sys.setSession])
  rwa [hself] at this

theorem Sys.attached_none (h : s.sessions = fun _ => none) : s.attached cfg = 0 := by
  simp [Sys.attached, h]

/-! ## Who can be in `stop_bridge` -/

/-- Steps of the pumps and of the flags. -/
theorem Guard.frame {s' : Sys} (h : Guard cfg s)
    (hcount : s'.bridge.attachedCount = s.bridge.attachedCount)
    (hsessions : s'.sessions = s.sessions) (hclients : s'.clients = s.clients)
    (hdown : s'.shuttingDown = s.shuttingDown)
    (hstate : s'.bridge.state = .stopped → s.bridge.state = .stopped) : Guard cfg s' where
  counted := by
    rw [hcount, h.counted, Sys.attached, Sys.attached, hsessions]
  quiet := by
    rw [hcount, hclients]
    exact h.quiet
  alone := by
    rw [hdown, hclients]
    exact h.alone
  rest hs := by
    rw [hcount, hdown, hclients]
    exact h.rest (hstate hs)
  shutdown := by
    rw [hdown, hclients]
    exact h.shutdown

theorem Sys.setClient_free {id : Nat} {point : Client}
    (h : (s.clients id).free = false ∨ point.free = true) {c : Nat}
    (hc : ((s.setClient id point).clients c).free = false) : (s.clients c).free = false := by
  rcases eq_or_ne c id with rfl | hne
  · rw [Sys.setClient_self] at hc
    exact h.resolve_right (by simp [hc])
  · rwa [Sys.setClient_of_ne hne] at hc

/-- A client that is in `stop_bridge` moves, or one moves out of it. -/
theorem Guard.setClient (h : Guard cfg s) (id : Nat) (point : Client)
    (hfree : (s.clients id).free = false ∨ point.free = true) (hpoint : point ≠ .shutdown) :
    Guard cfg (s.setClient id point) where
  counted := h.counted
  quiet hcount c := by
    by_contra hc
    have := Sys.setClient_free hfree (Bool.eq_false_iff.2 hc)
    rw [h.quiet hcount c] at this
    cases this
  alone hdown c c' hc hc' :=
    h.alone hdown c c' (Sys.setClient_free hfree hc) (Sys.setClient_free hfree hc')
  rest hs := by
    refine ⟨(h.rest hs).1, fun hdown c => ?_⟩
    by_contra hc
    have := Sys.setClient_free hfree (Bool.eq_false_iff.2 hc)
    rw [(h.rest hs).2 hdown c] at this
    cases this
  shutdown c hc := by
    rcases eq_or_ne c id with rfl | hne
    · rw [Sys.setClient_self] at hc
      exact absurd hc hpoint
    · rw [Sys.setClient_of_ne hne] at hc
      exact h.shutdown c hc

theorem Guard.pump (h : Guard cfg s) (thread : Nat) (failed : Bool) (result : Result Unit) :
    Guard cfg (s.pump thread failed result) := by
  unfold Sys.pump
  split
  · exact h
  · exact h
  · split_ifs
    · exact h.frame rfl rfl rfl rfl id
    · exact h.frame rfl rfl rfl rfl id
    · exact h
  · split
    · exact h.frame rfl rfl rfl rfl id
    · exact h.frame rfl rfl rfl rfl nofun
  · exact h.frame rfl rfl rfl rfl id
  · exact h.frame rfl rfl rfl rfl id
  · exact h.frame rfl rfl rfl rfl nofun

/-- The last session has been detached. -/
theorem Guard.leave {id : Nat} (hcounted : s.bridge.attachedCount = s.attached cfg)
    (hcount : s.bridge.attachedCount = 0)
    (hfree : s.shuttingDown = false → (∀ c, (s.clients c).free = true) ∧ s.bridge.state ≠ .stopped)
    (hshutdown : ∀ c, c ≠ id → s.clients c = .shutdown → s.shuttingDown = true) :
    Guard cfg (s.leave id) := by
  have hfields : (s.leave id).bridge.attachedCount = s.bridge.attachedCount ∧
      (s.leave id).attached cfg = s.attached cfg ∧
      (s.leave id).shuttingDown = s.shuttingDown ∧
      ((s.leave id).bridge.state = .stopped → s.bridge.state = .stopped) ∧
      ∃ owns, (s.leave id).clients = (s.setClient id (.stopBridge owns)).clients := by
    unfold Sys.leave
    split
    · exact ⟨rfl, rfl, rfl, nofun, true, rfl⟩
    · exact ⟨rfl, rfl, rfl, fun hs => hs, false, rfl⟩
  obtain ⟨hc, ha, hd, hs, owns, hcl⟩ := hfields
  have hother : s.shuttingDown = false → ∀ c, ((s.leave id).clients c).free = false → c = id := by
    intro hdown c hne
    by_contra hcid
    rw [hcl, Sys.setClient_of_ne hcid, (hfree hdown).1 c] at hne
    cases hne
  refine ⟨by rw [hc, ha, hcounted], fun hne => absurd (hc.trans hcount) hne, ?_, ?_, ?_⟩
  · intro hdown c c' hne hne'
    rw [hd] at hdown
    rw [hother hdown c hne, hother hdown c' hne']
  · intro hstopped
    refine ⟨hc.trans hcount, fun hdown => ?_⟩
    rw [hd] at hdown
    exact absurd (hs hstopped) (hfree hdown).2
  · intro c hat
    rw [hd]
    rcases eq_or_ne c id with rfl | hne
    · rw [hcl, Sys.setClient_self] at hat
      cases hat
    · rw [hcl, Sys.setClient_of_ne hne] at hat
      exact hshutdown c hne hat

/-- The last section of `stop_bridge`: its client was the only one in it. -/
theorem Guard.stopped (h : Guard cfg s) {id : Nat} {first : Option Error}
    (hat : s.clients id = .ended first) : Guard cfg (s.stopped id first) := by
  have hfree : (s.clients id).free = false := by rw [hat]; rfl
  obtain ⟨point, hpoint, hshut, hset⟩ : ∃ point : Client, point.free = true ∧ point ≠ .shutdown ∧
      (s.stopped id first).clients = (s.setClient id point).clients := by
    unfold Sys.stopped
    cases first.or s.bridge.cleanupError with
    | none => exact ⟨.returning (.ok ()), rfl, nofun, rfl⟩
    | some e => exact ⟨.storing e, rfl, nofun, rfl⟩
  have hmoved := h.setClient id point (.inl hfree) hshut
  refine ⟨h.counted, ?_, ?_, fun _ => ⟨?_, fun hdown c => ?_⟩, ?_⟩
  · rw [hset]
    exact hmoved.quiet
  · rw [hset]
    exact hmoved.alone
  · show s.bridge.attachedCount = 0
    by_contra hcount
    rw [h.quiet hcount id] at hfree
    cases hfree
  · rw [hset]
    rcases eq_or_ne c id with rfl | hne
    · rwa [Sys.setClient_self]
    · rw [Sys.setClient_of_ne hne]
      by_contra hc
      exact hne (h.alone hdown c id (Bool.eq_false_iff.2 hc) hfree)
  · rw [hset]
    exact hmoved.shutdown

theorem Guard.stopBridge (h : Guard cfg s) {id : Nat} {ownsStopping : Bool}
    (hat : s.clients id = .stopBridge ownsStopping) : Guard cfg (s.stopBridge id ownsStopping) := by
  have hmove : ∀ point, point ≠ Client.shutdown → Guard cfg (s.setClient id point) :=
    fun point hpoint => h.setClient id point (.inl (by rw [hat]; rfl)) hpoint
  unfold Sys.stopBridge
  split
  · exact h
  dsimp only
  split
  · exact hmove _ nofun
  refine (hmove (if _ then _ else _) (by split <;> nofun)).frame rfl rfl rfl rfl ?_
  intro hstopped
  show s.bridge.state = .stopped
  change (if _ then BridgeState.stopping else s.bridge.state) = _ at hstopped
  split at hstopped
  · cases hstopped
  · exact hstopped

theorem Guard.client (h : Guard cfg s) (id : Nat) (result : Result Unit)
    (hcond : ∀ outcome, s.clients id = .returning outcome → s.reopens outcome = false) :
    Guard cfg (s.client id result) := by
  cases hat : s.clients id with
  | idle => simpa only [Sys.client, hat] using h
  | shutdown =>
    have hdown := h.shutdown id hat
    simp only [Sys.client, hat, Sys.endSessions]
    split
    · exact h
    · refine Guard.leave ?_ rfl ?_ fun c _ hc => h.shutdown c hc
      · exact (Sys.attached_none rfl).symm
      · exact fun hup => absurd (hdown.symm.trans hup) (by decide)
  | stopBridge ownsStopping =>
    simp only [Sys.client, hat]
    exact h.stopBridge hat
  | cancelling claim =>
    simp only [Sys.client, hat]
    exact (h.setClient id (.joining claim (errorOf result)) (.inl (by rw [hat]; rfl))
      nofun).frame rfl rfl rfl rfl fun hs => hs
  | joining claim first =>
    simp only [Sys.client, hat, Sys.join]
    split
    · have hmove := h.setClient id (if claim.cleanup then .stopping first else .ended first)
        (.inl (by rw [hat]; rfl)) (by split <;> nofun)
      unfold Sys.joined
      cases claim.thread with
      | none => exact hmove
      | some thread => exact hmove.frame rfl rfl rfl rfl fun hs => hs
    · exact h
  | stopping first =>
    simp only [Sys.client, hat]
    exact (h.setClient id (.ended (first.or (errorOf result))) (.inl (by rw [hat]; rfl))
      nofun).frame rfl rfl rfl rfl fun hs => hs
  | ended first =>
    simp only [Sys.client, hat]
    exact h.stopped hat
  | storing error =>
    simp only [Sys.client, hat]
    exact (h.setClient id (.returning (.error error)) (.inr rfl)
      nofun).frame rfl rfl rfl rfl fun hs => hs
  | returning outcome =>
    simp only [Sys.client, hat, Sys.returned, hcond outcome hat]
    exact h.setClient id .idle (.inr rfl) nofun

theorem Guard.detach (h : Guard cfg s) (id : Nat) (attachment : TunerAttachment) :
    Guard cfg (s.detach cfg index id attachment) := by
  unfold Sys.detach
  split
  · exact h
  next hidle =>
    push Not at hidle
    split
    · exact h
    next hattached =>
      push Not at hattached
      have hserves : Plane.serves cfg index attachment = true := by simpa using hidle.1
      have hcount := Sys.attached_detach hserves hattached
      have hne : s.bridge.attachedCount ≠ 0 := by rw [h.counted, hcount]; omega
      have hcounted : s.bridge.attachedCount - 1 =
          (s.setSession attachment.receiver none).attached cfg := by
        rw [h.counted, hcount]
        omega
      have hstate : s.bridge.state ≠ .stopped := fun hs => hne (h.rest hs).1
      dsimp only
      split
      next hlast =>
        exact Guard.leave hcounted hlast (fun _ => ⟨h.quiet hne, hstate⟩) fun c _ hc =>
          h.shutdown c hc
      · exact ⟨hcounted, fun _ => h.quiet hne, h.alone, fun hs => absurd hs hstate, h.shutdown⟩

/-- A failed start leaves the sessions as they were. -/
theorem Sys.sessions_undo {r : Nat} (attachment : TunerAttachment) (h : s.sessions r = none) :
    Function.update (s.setSession r (some attachment)).sessions r none = s.sessions := by
  show Function.update (Function.update s.sessions r _) r none = _
  rw [Function.update_idem, ← h, Function.update_eq_self]

/-- `start_bridge_locked`, for the first session. -/
theorem Guard.startBridge (h : Guard cfg s) {attachment : TunerAttachment} (env : AttachEnv)
    (hserves : Plane.serves cfg index attachment = true)
    (hnone : s.sessions attachment.receiver = none) (hdown : s.shuttingDown = false) :
    Guard cfg ((s.setSession attachment.receiver (some attachment)).startBridge
      attachment.receiver env) := by
  have hundo := Sys.sessions_undo attachment hnone
  unfold Sys.startBridge
  split
  · exact h.frame rfl hundo rfl rfl fun hs => hs
  next hstart =>
    have hstopped : s.bridge.state = .stopped := by
      by_contra hne
      exact hstart (.inl hne)
    split
    · unfold Sys.startThread
      split
      · have hfree := (h.rest hstopped).2 hdown
        refine ⟨?_, fun _ => hfree, h.alone, nofun, h.shutdown⟩
        show s.bridge.attachedCount + 1 =
          (s.setSession attachment.receiver (some attachment)).attached cfg
        rw [Sys.attached_attach hserves hnone, h.counted]
      · exact h.frame rfl hundo rfl rfl fun _ => hstopped
    · exact h.frame rfl hundo rfl rfl fun hs => hs

theorem Guard.attach (h : Guard cfg s) (attachment : TunerAttachment) (env : AttachEnv) :
    Guard cfg (s.attach cfg index attachment env) := by
  unfold Sys.attach
  split
  · exact h
  next hvalid =>
    push Not at hvalid
    have hserves : Plane.serves cfg index attachment = true := by simpa using hvalid.2.2.2.1
    split
    · exact h
    split
    · exact h
    next hopen =>
      have hdown : s.shuttingDown = false := by
        simp only [Bool.or_eq_true, not_or, Bool.not_eq_true] at hopen
        exact hopen.1.1
      split
      · exact h
      next hstopped =>
        split
        · exact h
        next hfresh =>
          have hnone : s.sessions attachment.receiver = none := by
            simp only [Bool.or_eq_true, not_or, Bool.not_eq_true, Option.isSome_eq_false_iff,
              Option.isNone_iff_eq_none] at hfresh
            exact hfresh.1
          dsimp only
          split
          · exact h.startBridge env hserves hnone hdown
          next hcount =>
            refine ⟨?_, fun _ => h.quiet hcount, h.alone, fun hs => absurd ⟨hs, hcount⟩ hstopped,
              h.shutdown⟩
            show s.bridge.attachedCount + 1 =
              (s.setSession attachment.receiver (some attachment)).attached cfg
            rw [Sys.attached_attach hserves hnone, h.counted]

/-- **A step keeps the guard**, if it meets the condition. -/
theorem Guard.step (h : Guard cfg s) (act : Sys.Act) (hcond : Cond s act) :
    Guard cfg (s.step cfg index act) := by
  cases act with
  | attach attachment env => exact h.attach attachment env
  | detach client attachment => exact h.detach client attachment
  | shutdown client =>
    unfold Sys.step
    dsimp only
    split
    next hidle =>
      have hfree : ∀ c, ((s.setClient client .shutdown).clients c).free = false →
          (s.clients c).free = false := fun c => Sys.setClient_free (.inr rfl)
      refine ⟨h.counted, fun hcount c => ?_, nofun, fun hs =>
        ⟨(h.rest hs).1, nofun⟩, fun _ _ => rfl⟩
      by_contra hc
      have := hfree c (Bool.eq_false_iff.2 hc)
      rw [h.quiet hcount c] at this
      cases this
    · exact h
  | client id result => exact h.client id result (Sys.reopens_of_cond hcond)
  | pump thread failed result => exact h.pump thread failed result
  | enclosureFatal => exact h.frame rfl rfl rfl rfl fun hs => hs

/-! ## A fatal enclosure, a fatal bridge -/

theorem Sys.starts_called {ops : List Op} (h : ∀ op ∈ ops, op.isStart = false) :
    (s.called ops).starts = s.starts := by
  have hnone : ops.filter Op.isStart = [] := by
    rw [List.filter_eq_nil_iff]
    exact fun op hop => by rw [h op hop]; nofun
  rw [Sys.starts, Sys.called, List.filter_append, hnone, List.append_nil, Sys.starts]

/-- `attach` on a fatal bridge or enclosure. -/
theorem Sys.attach_fatal (h : s.enclosureFatal = true ∨ s.bridge.state = .fatal)
    (attachment : TunerAttachment) (env : AttachEnv) : s.attach cfg index attachment env = s := by
  have hrefused : (s.shuttingDown || s.enclosureFatal || s.bridge.state == .fatal) = true := by
    rcases h with h | h <;> simp [h]
  unfold Sys.attach
  rw [if_pos hrefused, ite_self, ite_self]

/-- A step that is no start keeps what a fatal enclosure keeps. -/
theorem Sys.client_fatal (h : s.enclosureFatal = true) (id : Nat) (result : Result Unit) :
    (s.client id result).enclosureFatal = true ∧ (s.client id result).starts = s.starts := by
  unfold Sys.client
  split
  · exact ⟨h, rfl⟩
  · unfold Sys.endSessions Sys.leave
    split_ifs <;> exact ⟨h, rfl⟩
  · unfold Sys.stopBridge
    dsimp only
    split_ifs <;> exact ⟨h, rfl⟩
  · exact ⟨h, Sys.starts_called (by simp [Op.isStart])⟩
  · unfold Sys.join Sys.joined
    split
    · dsimp only
      split <;> exact ⟨h, rfl⟩
    · exact ⟨h, rfl⟩
  · exact ⟨h, Sys.starts_called (by simp [Op.isStart])⟩
  · exact ⟨h, rfl⟩
  · exact ⟨by simp [Sys.storeFatal, Sys.setClient], rfl⟩
  · exact ⟨h, rfl⟩

theorem Sys.pump_fatal (h : s.enclosureFatal = true) (thread : Nat) (failed : Bool)
    (result : Result Unit) : (s.pump thread failed result).enclosureFatal = true ∧
      (s.pump thread failed result).starts = s.starts := by
  unfold Sys.pump
  split
  · exact ⟨h, rfl⟩
  · exact ⟨h, rfl⟩
  · split_ifs <;> exact ⟨h, rfl⟩
  · split <;> exact ⟨h, rfl⟩
  · exact ⟨h, Sys.starts_called (by simp [Op.isStart])⟩
  · exact ⟨h, Sys.starts_called (by simp [Op.isStart])⟩
  · exact ⟨by simp [Sys.storeFatal, Sys.setPump, Sys.setBridge, h], rfl⟩

theorem Sys.step_fatal (h : s.enclosureFatal = true) (act : Sys.Act) :
    (s.step cfg index act).enclosureFatal = true ∧ (s.step cfg index act).starts = s.starts := by
  cases act with
  | attach attachment env =>
    rw [Sys.step, Sys.attach_fatal (.inl h)]
    exact ⟨h, rfl⟩
  | detach client attachment =>
    unfold Sys.step Sys.detach Sys.leave
    dsimp only
    split_ifs <;> exact ⟨h, rfl⟩
  | shutdown client =>
    unfold Sys.step
    dsimp only
    split <;> exact ⟨h, rfl⟩
  | client id result => exact Sys.client_fatal h id result
  | pump thread failed result => exact Sys.pump_fatal h thread failed result
  | enclosureFatal => exact ⟨rfl, rfl⟩

theorem Sys.pump_stays_fatal (h : s.bridge.state = .fatal) (thread : Nat) (failed : Bool)
    (result : Result Unit) : (s.pump thread failed result).bridge.state = .fatal := by
  unfold Sys.pump
  split
  · exact h
  · exact h
  · split_ifs <;> exact h
  · rw [if_pos (.inl (by simp [h]))]
    exact h
  · exact h
  · exact h
  · rfl

/-- Only the end of a `stop_bridge`, or of the call behind it, makes a fatal bridge stopped. -/
theorem Sys.client_reopens (h : s.bridge.state = .fatal) {id : Nat} {result : Result Unit}
    (hne : (s.client id result).bridge.state ≠ .fatal) :
    (s.clients id).free = false ∨ s.bridge.attachedCount = 0 := by
  cases hat : s.clients id with
  | idle => exact absurd (by simpa only [Sys.client, hat] using h) hne
  | storing error =>
    refine absurd ?_ hne
    simp only [Sys.client, hat]
    exact h
  | shutdown =>
    refine absurd ?_ hne
    simp only [Sys.client, hat, Sys.endSessions, Sys.leave]
    split_ifs with _ hrun
    · exact h
    · exact absurd (h.symm.trans hrun) (by decide)
    · exact h
  | returning outcome =>
    simp only [Sys.client, hat, Sys.returned] at hne
    split at hne
    next hreopens =>
      simp only [Sys.reopens, Bool.and_eq_true, beq_iff_eq] at hreopens
      exact .inr hreopens.2
    · exact absurd h hne
  | stopBridge | cancelling | joining | stopping | ended => exact .inl rfl

theorem Guard.reopened (hguard : Guard cfg s) (h : s.bridge.state = .fatal) (act : Sys.Act)
    (hne : (s.step cfg index act).bridge.state ≠ .fatal) : s.attached cfg = 0 := by
  rw [← hguard.counted]
  cases act with
  | attach attachment env =>
    rw [Sys.step, Sys.attach_fatal (.inr h)] at hne
    exact absurd h hne
  | detach client attachment =>
    refine absurd ?_ hne
    unfold Sys.step Sys.detach Sys.leave
    dsimp only
    split_ifs with _ _ _ hrun
    · exact h
    · exact h
    · exact absurd (h.symm.trans hrun) (by decide)
    · exact h
    · exact h
  | shutdown client =>
    refine absurd ?_ hne
    unfold Sys.step
    dsimp only
    split <;> exact h
  | client id result =>
    rcases Sys.client_reopens h hne with hfree | hcount
    · by_contra hcount
      rw [hguard.quiet hcount id] at hfree
      cases hfree
    · exact hcount
  | pump thread failed result => exact absurd (Sys.pump_stays_fatal h thread failed result) hne
  | enclosureFatal => exact absurd h hne

/-! ## Runs -/

/-- The bridge after a run. -/
def run (cfg : Config) (index : Nat) (acts : List Sys.Act) : Sys :=
  acts.foldl (fun s act => s.step cfg index act) {}

theorem Stage.phase_isSome (h : Stage s) : s.phase.isSome = true := by
  cases h <;> simp [*]

theorem Stage.onePump (h : Stage s) {t t' : Nat} (ht : s.pumps t ≠ .gone)
    (ht' : s.pumps t' ≠ .gone) : t = t' := by
  cases h with
  | stopped _ _ pumps | failed _ _ _ pumps => exact absurd (by rw [pumps]) ht
  | running _ _ _ _ _ _ _ pumps | pumpCleaning _ _ _ _ _ pumps | clientStopping _ _ _ _ _ _ _ pumps
  | clientCleaning _ _ _ _ _ _ _ _ _ pumps | pumpFailed _ _ _ pumps
  | joiningFailed _ _ _ _ _ _ pumps =>
    rw [pumps.eq_of_ne ht, pumps.eq_of_ne ht']

theorem owed_of_inv (hstage : Stage s) (hguard : Guard cfg s) : Owed cfg index s where
  counted := hguard.counted
  ordered := hstage.phase_isSome
  onePump _ _ ht ht' := hstage.onePump ht ht'
  fatalStays h act := Sys.step_fatal h act
  failed thread first h failed result := by
    simp only [Sys.step, Sys.pump, h]
    rfl
  refused h attachment env := Sys.attach_fatal (.inr h) attachment env
  reopened h act hne := hguard.reopened h act hne

/-- **The lifecycle of a bridge.** In a run in which no `detach` or `shutdown` finds, in its last
section, the bridge fatal and without attachments as another epoch has left it, every state reached
has what is owed. -/
theorem lifecycle_owed (cfg : Config) (index : Nat) (acts : List Sys.Act)
    (hcond : Lib.AllSteps (fun s act => s.step cfg index act) Cond {} acts) (n : Nat) :
    Owed cfg index (run cfg index (acts.take n)) := by
  have hinit : Stage {} ∧ Guard cfg {} := by
    refine ⟨.stopped ⟨rfl, rfl, rfl⟩ rfl rfl (fun _ => rfl) rfl, ?_⟩
    exact ⟨(Sys.attached_none rfl).symm, nofun, nofun, fun _ => ⟨rfl, fun _ _ => rfl⟩, nofun⟩
  have hinv := hcond.inv (I := fun s => Stage s ∧ Guard cfg s)
    (fun s act h hc => ⟨h.1.step act hc, h.2.step act hc⟩) hinit n
  exact owed_of_inv hinv.1 hinv.2

/-- A satellite receiver of the first bridge. -/
def otherReceiver : TunerAttachment := ⟨3, 3, 3, 1, .isdbS, []⟩

/-- A pump fails and cleans up, the sessions detach, and the bridge is attached again. -/
def failedPump : List Sys.Act :=
  [.attach firstClient {}, .attach otherReceiver {}, .pump 0 true (.ok ()), .pump 0 false (.ok ()),
    .pump 0 false (.ok ()), .pump 0 false (.ok ()), .pump 0 false (.ok ()), .detach 1 firstClient,
    .detach 2 otherReceiver, .client 2 (.ok ()), .client 2 (.ok ()), .client 2 (.ok ()),
    .client 2 (.ok ()), .attach firstClient {}]

theorem lifecycle_owed_failed_pump :
    (run q3u4Config 0 failedPump).bridge.state = .running ∧
      (run q3u4Config 0 failedPump).log = [.start true, .cancel true, .stop true, .start true] ∧
      Owed q3u4Config 0 (run q3u4Config 0 (failedPump.take 14)) :=
  ⟨by decide, by decide, lifecycle_owed q3u4Config 0 failedPump (by decide) 14⟩

/-- Client 1 waits before the last section of its `detach`; the pump of the next epoch fails, and
the last `detach` of that epoch (client 2) has claimed the thread when client 1 goes on. The epoch
that then starts is ended by client 2, without a cleanup. -/
def staleDetach : List Sys.Act :=
  [.attach firstClient {}, .detach 1 firstClient, .client 1 (.ok ()), .client 1 (.ok ()),
    .pump 0 false (.ok ()), .client 1 (.ok ()), .client 1 (.ok ()), .client 1 (.ok ()),
    .attach otherReceiver {}, .pump 1 true (.ok ()), .pump 1 false (.ok ()), .pump 1 false (.ok ()),
    .pump 1 false (.ok ()), .pump 1 false (.ok ()), .detach 2 otherReceiver, .client 2 (.ok ()),
    .client 1 (.ok ()), .attach firstClient {}, .client 2 (.ok ()), .client 2 (.ok ()),
    .pump 2 false (.ok ()), .detach 3 firstClient, .client 3 (.ok ()), .client 3 (.ok ()),
    .client 3 (.ok ()), .client 3 (.ok ()), .attach otherReceiver { start := .error .busy }]

/-- Two pumps, and then a start after a stream that was never stopped. -/
theorem lifecycle_not_owed :
    ¬Owed q3u4Config 0 (run q3u4Config 0 (staleDetach.take 18)) ∧
      ¬Owed q3u4Config 0 (run q3u4Config 0 staleDetach) :=
  ⟨fun h => absurd (h.onePump 1 2 (by decide) (by decide)) (by decide),
    fun h => absurd h.ordered (by decide)⟩

end Px4.Stream.Lifecycle
