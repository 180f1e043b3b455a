import Px4.Frontend.Proof.Aside

/-!
# What an operation can do to a receiver

`Effect`: an operation is aside from the tuning of a receiver, or ends it, or is a tune or a
selection that reached the chips. `call_effect` says so of every operation and every receiver, with
the event it is observed as and with what `Renewed` asks of it.
-/

namespace Px4.Frontend

open Px4.Power (Bridge bridgeOf)

variable {b bridge : Bridge} {i receiver : Nat} {w w' : Wire} {e e' : Enclosure}

/-! ## Operations that keep the tuning -/

theorem Aside.purgeFirst (e : Enclosure) : Aside b i e (purgeFirst bridge e).1 := by
  unfold Frontend.purgeFirst
  split
  · exact .of_wire (.perform rfl e.wire)
  · exact .refl b i e

theorem Aside.startCapture (receiver : Nat) (system : System) (e : Enclosure) :
    Aside b i e (startCapture bridge receiver system e).1 := by
  have hpurge : Aside b i e (Frontend.purgeFirst bridge e).1 := .purgeFirst e
  have hbank := (purgeFirst_wired bridge e).bank
  unfold Frontend.startCapture
  dsimp only
  iterate 3
    split
    · exact .refl b i e
  split
  · exact .refl b i e
  rename_i htuned
  split
  · exact .refl b i e
  split
  · rename_i e₁ purged heq
    rw [heq] at hpurge
    exact hpurge
  · rename_i e₁ heq
    rw [heq] at hpurge hbank
    have hwire : Aside b i e₁
        (e₁.setWire (e₁.wire.perform bridge (.i2c (.enableTsPins receiver true))).1) :=
      .of_wire (.perform rfl e₁.wire)
    split
    · refine (hpurge.trans hwire).trans ?_
      have hstate : e.bank bridge = (e₁.setWire
          (e₁.wire.perform bridge (.i2c (.enableTsPins receiver true))).1).bank bridge :=
        (congrFun hbank bridge).symm
      rw [hstate] at htuned ⊢
      exact .setState fun _ _ => by rw [not_not.1 htuned]; rfl
    · exact hpurge.trans hwire

theorem Aside.disableCapture (h : (e.bank bridge).receiverState receiver = .capturing) :
    Aside b i e (disableCapture bridge receiver e).1 := by
  have hwire : Aside b i e
      (e.setWire (e.wire.perform bridge (.i2c (.enableTsPins receiver false))).1) :=
    .of_wire (.perform rfl e.wire)
  unfold Frontend.disableCapture
  split
  · rename_i w failed heq
    rw [heq] at hwire
    exact hwire
  · rename_i w heq
    rw [heq] at hwire
    exact hwire.trans (.setState fun _ _ => (congrArg ReceiverState.tunedIn h).symm)

theorem Aside.stopCapture (receiver : Nat) (system : System) (e : Enclosure) :
    Aside b i e (stopCapture bridge receiver system e).1 := by
  unfold Frontend.stopCapture
  dsimp only
  iterate 3
    split
    · exact .refl b i e
  split
  · exact .refl b i e
  · rename_i hcapturing
    exact .disableCapture (not_not.1 hcapturing)

theorem Aside.isLocked (receiver : Nat) (system : System) (e : Enclosure) :
    Aside b i e (isLocked bridge receiver system e).1 := by
  unfold Frontend.isLocked
  dsimp only
  iterate 4
    split
    · exact .refl b i e
  exact .of_wire (.access rfl e.wire)

theorem Aside.endCapture (receiver : Nat) (e : Enclosure) :
    Aside b i e (endCapture bridge receiver e).1 := by
  unfold Frontend.endCapture
  split
  · rename_i hcapturing
    exact Aside.disableCapture hcapturing
  · exact .refl b i e

/-! ## Operations that end the tuning -/

/-- The receiver is not tuned and has no selection. -/
def Ended (b : Bridge) (i : Nat) (e : Enclosure) : Prop :=
  ((e.bank b).receiverState i).tunedIn = false ∧ (e.bank b).satelliteSelected i = false

theorem forget_ended (bridge : Bridge) (receiver : Nat) (e : Enclosure) :
    Ended bridge receiver (forget bridge receiver e) := by
  unfold Ended
  rw [forget_bank]
  simp [Bank.setState, Bank.setSelection, ReceiverState.tunedIn]

/-- What a receiver is ended by keeps it ended when the rest is aside. -/
theorem Ended.aside (h : Ended b i e) (h' : Aside b i e e') : Ended b i e' :=
  ⟨h'.tunedIn.trans h.1, h'.selected.trans h.2⟩

theorem cleanupOpenFailure_ended (bridge : Bridge) (receiver : Nat) (firstOpen : Bool)
    (primary : Error) (e : Enclosure) :
    Ended bridge receiver (cleanupOpenFailure bridge receiver firstOpen primary e).1 ∧
      (Apart b i bridge receiver →
        Aside b i e (cleanupOpenFailure bridge receiver firstOpen primary e).1) := by
  refine ⟨forget_ended bridge receiver _, fun h => ?_⟩
  have hchips : Aside b i e (if firstOpen then terminateInitialized bridge e
      else sleepReceiver bridge receiver e).1 := by
    split
    · exact .terminateInitialized e
    · exact .sleepReceiver receiver e
  exact (hchips.trans (.releasePower receiver _)).trans (.forget h)

/-- **An open** ends the tuning of its receiver or fails and is aside from it. -/
theorem openReceiver_ended {system : System} {result : Result Unit}
    (hopen : openReceiver bridge receiver system e = (e', result)) :
    (Ended bridge receiver e' ∨ Aside bridge receiver e e' ∧ result.isOk = false) ∧
      (Apart b i bridge receiver → Aside b i e e') := by
  have hpower {b : Bridge} {i : Nat} : Aside b i e (acquirePower bridge receiver e).1 :=
    .acquirePower receiver e
  unfold openReceiver at hopen
  dsimp only at hopen
  iterate 4
    split at hopen
    · cases hopen
      exact ⟨.inr ⟨.refl _ _ e, rfl⟩, fun _ => .refl b i e⟩
  split at hopen
  · rename_i e₁ power heq
    rw [heq] at hpower
    cases hopen
    exact ⟨.inr ⟨hpower, rfl⟩, fun _ => hpower⟩
  rename_i e₁ heq
  rw [heq] at hpower
  have hchips {b : Bridge} {i : Nat} :
      Aside b i e₁ (openChips bridge receiver system (!(e.bank bridge).anyOpen) e₁).1 :=
    .openChips receiver system _ e₁
  split at hopen
  · rename_i e₂ failure heq'
    rw [heq'] at hchips
    obtain ⟨hended, haside⟩ := cleanupOpenFailure_ended (b := b) (i := i) bridge receiver
      (!(e.bank bridge).anyOpen) failure e₂
    rw [hopen] at hended haside
    exact ⟨.inl hended, fun h => (hpower.trans hchips).trans (haside h)⟩
  · rename_i e₂ heq'
    rw [heq'] at hchips
    cases hopen
    refine ⟨.inl ?_, fun h => (hpower.trans hchips).trans ?_⟩
    · unfold Ended
      rw [setBank_self]
      simp [Bank.setState, Bank.setSelection, ReceiverState.tunedIn]
    · refine .setBank (fun hb => ?_) (fun hb => ?_) (fun hb => ?_)
      · subst hb
        exact congrArg _ (Function.update_of_ne (h rfl) _ _)
      · subst hb
        exact Function.update_of_ne (h rfl) _ _
      · subst hb
        exact Function.update_of_ne (h rfl) _ _

/-- **A close** ends the tuning of its receiver or does nothing. -/
theorem closeReceiver_ended (bridge : Bridge) (receiver : Nat) (e : Enclosure) :
    (Ended bridge receiver (closeReceiver bridge receiver e).1 ∨
      Aside bridge receiver e (closeReceiver bridge receiver e).1) ∧
      (Apart b i bridge receiver → Aside b i e (closeReceiver bridge receiver e).1) := by
  unfold closeReceiver
  dsimp only
  split
  · dsimp only
    split
    · exact ⟨.inl (forget_ended bridge receiver e), fun h => .forget h⟩
    · exact ⟨.inr (.refl _ _ e), fun _ => .refl b i e⟩
  iterate 2
    split
    · exact ⟨.inr (.refl _ _ e), fun _ => .refl b i e⟩
  dsimp only
  have hcapture {b : Bridge} {i : Nat} : Aside b i e (endCapture bridge receiver e).1 :=
    .endCapture receiver e
  generalize (endCapture bridge receiver e).1 = e₁ at hcapture ⊢
  have hchips {b : Bridge} {i : Nat} : Aside b i e₁
      (if !(e₁.bank bridge).anyOtherOpen receiver then terminateInitialized bridge e₁
        else sleepReceiver bridge receiver e₁).1 := by
    split
    · exact .terminateInitialized e₁
    · exact .sleepReceiver receiver e₁
  generalize (if !(e₁.bank bridge).anyOtherOpen receiver then terminateInitialized bridge e₁
    else sleepReceiver bridge receiver e₁).1 = e₂ at hchips ⊢
  refine ⟨.inl ((forget_ended bridge receiver e₂).aside (.releasePower receiver _)), fun h => ?_⟩
  exact ((hcapture.trans hchips).trans (.forget h)).trans (.releasePower receiver _)

/-- **The loss of a bridge** ends the tuning of its receivers. -/
theorem markBridgeDisconnected_ended (bridge : Bridge) (e : Enclosure) :
    Ended b i (markBridgeDisconnected bridge e).1 ∨
    Aside b i e (markBridgeDisconnected bridge e).1 := by
  by_cases hb : b = bridge
  · subst hb
    left
    unfold Ended
    rw [show ((markBridgeDisconnected b e).1.bank b) = (e.bank b).lost from setBank_self _ _ _]
    exact ⟨rfl, rfl⟩
  · right
    have hbank : (markBridgeDisconnected bridge e).1.bank b = e.bank b := setBank_of_ne _ hb _
    refine ⟨.refl b i _, ?_, ?_, ?_⟩ <;> rw [hbank]

/-! ## A tune -/

theorem tuneReceiver_not_tunable {khz timeout : Nat} {system : System}
    (h : ¬Tunable (e.bank bridge) receiver system) :
    (tuneReceiver bridge receiver khz system timeout e).1 = e := by
  unfold tuneReceiver
  dsimp only
  split
  · rfl
  rename_i hconnected
  split
  · rfl
  split
  · rfl
  rename_i hsystem
  split
  · rfl
  rename_i hclosed
  split
  · rfl
  rename_i hcapturing
  refine absurd ⟨Bool.not_eq_true _ ▸ hconnected, not_not.1 hsystem, ?_⟩ h
  cases hstate : (e.bank bridge).receiverState receiver with
  | closed => exact absurd hstate hclosed
  | opened => exact .inl rfl
  | tuned => exact .inr rfl
  | capturing => exact absurd hstate hcapturing

/-- **A tune of a receiver that is open**: the state is set on a success, and only then. -/
theorem tuneReceiver_tunable (khz timeout : Nat) {system : System} (hr : receiver < 4)
    (h : Tunable (e.bank bridge) receiver system) :
    (tuneReceiver bridge receiver khz system timeout e).2 =
      (tuneChips bridge receiver khz system timeout e.wire).2 ∧
    (tuneReceiver bridge receiver khz system timeout e).1 =
      let e' := e.setWire (tuneChips bridge receiver khz system timeout e.wire).1
      if (tuneChips bridge receiver khz system timeout e.wire).2.isOk then
        e'.setBank bridge ((e'.bank bridge).setState receiver .tuned)
      else e' := by
  obtain ⟨hconnected, hsystem, hstate⟩ := h
  have hclosed : (e.bank bridge).receiverState receiver ≠ .closed := by
    rcases hstate with h | h <;> rw [h] <;> nofun
  have hcapturing : (e.bank bridge).receiverState receiver ≠ .capturing := by
    rcases hstate with h | h <;> rw [h] <;> nofun
  unfold tuneReceiver
  dsimp only
  rw [if_neg (by simp [hconnected]), if_neg (by omega), if_neg (not_not.2 hsystem), if_neg hclosed,
    if_neg hcapturing]
  rcases tuneChips bridge receiver khz system timeout e.wire with ⟨w, _ | ⟨⟨⟩⟩⟩
  · exact ⟨rfl, rfl⟩
  · exact ⟨rfl, rfl⟩

/-! ## A selection -/

/-- A TSID was written to the demodulator, and no other after it. -/
def Wrote (b : Bridge) (i tsid : Nat) (w w' : Wire) : Prop :=
  ∃ w₁, Quiet b i w w₁ ∧ Quiet b i (w₁.access b (.i2c (.setTsid i tsid))).1 w'

/-- More accesses. -/
def Grown (w w' : Wire) : Prop := w'.replies = w.replies ∧ w.log <+: w'.log

theorem Grown.trans {w'' : Wire} (h : Grown w w') (h' : Grown w' w'') : Grown w w'' :=
  ⟨h'.1.trans h.1, h.2.trans h'.2⟩

theorem Quiet.grown (h : Quiet b i w w') : Grown w w' := by
  obtain ⟨hreplies, more, hlog, -⟩ := h
  exact ⟨hreplies, more, hlog.symm⟩

theorem Wrote.grown {tsid : Nat} (h : Wrote b i tsid w w') : Grown w w' := by
  obtain ⟨w₁, hbefore, hafter⟩ := h
  have hsent : Grown w₁ (w₁.access b (.i2c (.setTsid i tsid))).1 := ⟨rfl, _, rfl⟩
  exact (hbefore.grown.trans hsent).trans hafter.grown

theorem Grown.getElem? (h : Grown w w') {j : Nat} {a : Bridge × Access}
    (ha : w.log[j]? = some a) : w'.log[j]? = some a := by
  obtain ⟨-, more, hlog⟩ := h
  obtain ⟨hj, -⟩ := List.getElem?_eq_some_iff.1 ha
  rw [← hlog, List.getElem?_append_left hj]
  exact ha

theorem ReadBack.grown {base : Nat} (hread : ReadBack w b i base) (h : Grown w w') :
    ReadBack w' b i base := by
  obtain ⟨tsid, j, k, hj, hjk, hset, hwrite, hget, hvalue⟩ := hread
  refine ⟨tsid, j, k, hj, hjk, h.getElem? hset, ?_, h.getElem? hget, ?_⟩
  · rw [h.1]
    exact hwrite
  · rw [h.1]
    exact hvalue

theorem ReadBack.mono {base base' : Nat} (hread : ReadBack w b i base) (h : base' ≤ base) :
    ReadBack w b i base' := by
  obtain ⟨tsid, j, k, hj, hrest⟩ := hread
  exact ⟨tsid, j, k, Nat.le_trans h hj, hrest⟩

/-- Nothing was written after the last access. -/
theorem not_readBack_length (w : Wire) : ¬ReadBack w b i w.log.length := by
  rintro ⟨tsid, j, k, hj, -, hset, -⟩
  obtain ⟨hlt, -⟩ := List.getElem?_eq_some_iff.1 hset
  omega

theorem Quiet.lastTsid (h : Quiet b i w w') : lastTsid b i w'.log = lastTsid b i w.log := by
  obtain ⟨-, more, hlog, hmore⟩ := h
  unfold Frontend.lastTsid
  rw [hlog, List.filterMap_append, List.filterMap_eq_nil_iff.2 hmore, List.append_nil]

theorem Wrote.lastTsid {tsid : Nat} (h : Wrote b i tsid w w') :
    lastTsid b i w'.log = some tsid := by
  obtain ⟨w₁, -, hafter⟩ := h
  rw [hafter.lastTsid]
  simp [Frontend.lastTsid, Wire.access, tsidOf]

/-- A poll that ends well has read the TSID back. -/
theorem pollTsid_ok {tsid polls : Nat} {last : Option Error}
    (h : pollTsid bridge receiver tsid polls last w = (w', .ok ())) :
    ∃ j, w.log.length ≤ j ∧ w'.log[j]? = some (bridge, .i2c (.getTsid receiver)) ∧
      w.replies j = .ok tsid := by
  induction polls generalizing last w with
  | zero => cases h
  | succ polls ih =>
    have hlength : (w.access bridge (.i2c (.getTsid receiver))).1.log.length = w.log.length + 1 :=
      List.length_append
    have hagain {w₁ : Wire} {reply : Result Nat} {last : Option Error}
        (heq : w.access bridge (.i2c (.getTsid receiver)) = (w₁, reply))
        (hpoll : pollTsid bridge receiver tsid polls last w₁ = (w', .ok ())) :
        ∃ j, w.log.length ≤ j ∧ w'.log[j]? = some (bridge, .i2c (.getTsid receiver)) ∧
          w.replies j = .ok tsid := by
      obtain ⟨j, hj, hget, hvalue⟩ := ih hpoll
      have hw₁ : w₁ = (w.access bridge (.i2c (.getTsid receiver))).1 := by rw [heq]
      rw [hw₁] at hj hvalue
      exact ⟨j, by omega, hget, hvalue⟩
    unfold pollTsid at h
    split at h
    · rename_i w₁ value heq
      split at h
      · rename_i hvalue
        subst hvalue
        cases h
        obtain ⟨rfl, hreply⟩ := Prod.mk.inj heq
        exact ⟨w.log.length, Nat.le_refl _, by simp, hreply⟩
      · exact hagain heq h
    · rename_i w₁ error heq
      exact hagain heq h

/-- **What a selection does to the chips**: the TSID is written, and read back if it ends well. -/
theorem selectTsidChips_spec (bridge : Bridge) (receiver tsid timeout : Nat) (w : Wire) :
    let w' := (selectTsidChips bridge receiver tsid timeout w).1
    Wrote bridge receiver tsid w w' ∧
      ((selectTsidChips bridge receiver tsid timeout w).2 = .ok () →
        ReadBack w' bridge receiver w.log.length) ∧
      (Apart b i bridge receiver → Quiet b i w w') := by
  have hsent : Quiet bridge receiver
      (w.access bridge (.i2c (.setTsid receiver tsid))).1
      (selectTsidChips bridge receiver tsid timeout w).1 := by
    unfold selectTsidChips
    split
    · rename_i w₁ error heq
      obtain ⟨rfl, -⟩ := Prod.mk.inj heq
      exact .refl _ _ _
    · rename_i w₁ heq
      obtain ⟨rfl, -⟩ := Prod.mk.inj heq
      exact .pollTsid _ _ _ _ _
  refine ⟨⟨w, .refl _ _ w, hsent⟩, fun hok => ?_, fun h => ?_⟩
  · have hlength : (w.access bridge (.i2c (.setTsid receiver tsid))).1.log.length =
        w.log.length + 1 := List.length_append
    have hset : (selectTsidChips bridge receiver tsid timeout w).1.log[w.log.length]? =
        some (bridge, .i2c (.setTsid receiver tsid)) := hsent.grown.getElem? (by simp [Wire.access])
    have hreplies : (selectTsidChips bridge receiver tsid timeout w).1.replies =
        w.replies := hsent.1
    unfold ReadBack
    rw [hreplies]
    generalize hchips : selectTsidChips bridge receiver tsid timeout w = result at hok hset ⊢
    obtain ⟨w', _⟩ := result
    obtain rfl := hok
    unfold selectTsidChips at hchips
    split at hchips
    · cases hchips
    · rename_i w₁ heq
      obtain ⟨rfl, hreply⟩ := Prod.mk.inj heq
      obtain ⟨j, hj, hget, hvalue⟩ := pollTsid_ok hchips
      refine ⟨tsid, w.log.length, j, Nat.le_refl _, by omega, hset, ?_, hget, hvalue⟩
      cases hwrite : w.replies w.log.length with
      | ok value => rfl
      | error error =>
        rw [show (w.access bridge (.i2c (.setTsid receiver tsid))).2 =
          w.replies w.log.length from rfl,
          hwrite] at hreply
        cases hreply
  · have hother : tsidOf b i (bridge, .i2c (.setTsid receiver tsid)) = none := by
      refine if_neg ?_
      rintro ⟨hb, hi⟩
      exact h hb.symm hi.symm
    have hset : Quiet b i w (w.perform bridge (.i2c (.setTsid receiver tsid))).1 :=
      .perform hother w
    unfold selectTsidChips
    split
    · rename_i w₁ error heq
      rw [heq] at hset
      exact hset
    · rename_i w₁ heq
      rw [heq] at hset
      exact hset.trans (.pollTsid _ _ _ _ _)

/-- A selection: the record is set on a success, and only then. -/
theorem selectTsid_eq (bridge : Bridge) (receiver tsid timeout : Nat) (e : Enclosure) :
    (selectTsid bridge receiver tsid timeout e).2 =
      (selectTsidChips bridge receiver tsid timeout e.wire).2 ∧
    (selectTsid bridge receiver tsid timeout e).1 =
      let e' := e.setWire (selectTsidChips bridge receiver tsid timeout e.wire).1
      if (selectTsidChips bridge receiver tsid timeout e.wire).2.isOk then
        e'.setBank bridge ((e'.bank bridge).setSelection receiver true tsid)
      else e' := by
  unfold selectTsid
  rcases selectTsidChips bridge receiver tsid timeout e.wire with ⟨w, _ | ⟨⟨⟩⟩⟩
  · exact ⟨rfl, rfl⟩
  · exact ⟨rfl, rfl⟩

/-- What a selection that reaches the demodulator does to the record of its receiver. -/
structure Selects (b : Bridge) (i tsid : Nat) (e e' : Enclosure) (result : Result Unit) : Prop where
  wrote : Wrote b i tsid e.wire e'.wire
  state : (e'.bank b).receiverState i = (e.bank b).receiverState i
  ok : result = .ok () → ReadBack e'.wire b i e.wire.log.length ∧
    (e'.bank b).satelliteSelected i = true ∧ (e'.bank b).selectedTsid i = tsid
  error : result ≠ .ok () → (e'.bank b).satelliteSelected i = (e.bank b).satelliteSelected i ∧
    (e'.bank b).selectedTsid i = (e.bank b).selectedTsid i

theorem selectTsid_spec (bridge : Bridge) (receiver tsid timeout : Nat) (e : Enclosure) :
    Selects bridge receiver tsid e (selectTsid bridge receiver tsid timeout e).1
        (selectTsid bridge receiver tsid timeout e).2 ∧
      (Apart b i bridge receiver → Aside b i e (selectTsid bridge receiver tsid timeout e).1) := by
  obtain ⟨hresult, hafter⟩ := selectTsid_eq bridge receiver tsid timeout e
  obtain ⟨hwrote, hread, hquiet⟩ :=
    selectTsidChips_spec (b := b) (i := i) bridge receiver tsid timeout e.wire
  rw [hresult, hafter]
  generalize selectTsidChips bridge receiver tsid timeout e.wire = result at hwrote hread hquiet ⊢
  obtain ⟨w, _ | ⟨⟨⟩⟩⟩ := result
  · exact ⟨⟨hwrote, rfl, nofun, fun _ => ⟨rfl, rfl⟩⟩, fun h => .of_wire (hquiet h)⟩
  · refine ⟨⟨hwrote, ?_, fun _ => ⟨hread rfl, ?_, ?_⟩, fun h => absurd rfl h⟩, fun h => ?_⟩
    · show (((e.setWire w).setBank bridge _).bank bridge).receiverState receiver = _
      rw [setBank_self]
      rfl
    · show (((e.setWire w).setBank bridge _).bank bridge).satelliteSelected receiver = _
      rw [setBank_self]
      exact Function.update_self _ _ _
    · show (((e.setWire w).setBank bridge _).bank bridge).selectedTsid receiver = _
      rw [setBank_self]
      exact Function.update_self _ _ _
    · exact (Aside.of_wire (hquiet h)).trans (.setSelection h true tsid)

/-! ## What an operation can do to a receiver -/

/-- What the operation `op` does to what a capture of the receiver `g` depends on. -/
inductive Effect (e : Enclosure) (op : Call) (g : Nat) : Prop
  | aside (haside : Aside (bridgeOf g) (g % 4) e (call e op).1)
      (hopens : (eventOf e op).opens g = false) (htunes : (eventOf e op).tunes g = false)
      (hrenewed : op.receiver? = some g → Renewed e op)
  | ended (hended : Ended (bridgeOf g) (g % 4) (call e op).1) (hrenewed : Renewed e op)
  | tune (hquiet : Quiet (bridgeOf g) (g % 4) e.wire (call e op).1.wire)
      (hopens : (eventOf e op).opens g = false) (htunes : (eventOf e op).tunes g = true)
      (htuned : (((call e op).1.bank (bridgeOf g)).receiverState (g % 4)).tunedIn =
        (((e.bank (bridgeOf g)).receiverState (g % 4)).tunedIn || (call e op).2.isOk))
      (hselected : ((call e op).1.bank (bridgeOf g)).satelliteSelected (g % 4) =
        (e.bank (bridgeOf g)).satelliteSelected (g % 4))
      (hrenewed : Renewed e op ↔
        (((e.bank (bridgeOf g)).receiverState (g % 4)).tunedIn = true → (call e op).2 = .ok ()) ∧
        (systemOf (g % 4) = .isdbS → (e.bank (bridgeOf g)).satelliteSelected (g % 4) = false))
  | select (tsid : Nat)
      (hselects : Selects (bridgeOf g) (g % 4) tsid e (call e op).1 (call e op).2)
      (hopens : (eventOf e op).opens g = false) (htunes : (eventOf e op).tunes g = false)
      (hsystem : systemOf (g % 4) = .isdbS)
      (htuned : ((e.bank (bridgeOf g)).receiverState (g % 4)).tunedIn = true)
      (hrenewed : Renewed e op ↔ ((e.bank (bridgeOf g)).satelliteSelected (g % 4) = true →
        tsid ≠ (e.bank (bridgeOf g)).selectedTsid (g % 4) → (call e op).2 = .ok ()))

/-- Two receivers of an enclosure. -/
theorem apart_of_ne {g g' : Nat} (hg : g < 8) (hg' : g' < 8) (h : g ≠ g') :
    Apart (bridgeOf g) (g % 4) (bridgeOf g') (g' % 4) := by
  intro hb hi
  refine h ?_
  rw [← globalBase_bridgeOf hg, ← globalBase_bridgeOf hg', hb, hi]

theorem route_of_lt {f : Bridge → Nat → Enclosure → Enclosure × Result Unit} {g : Nat} (hg : g < 8)
    (e : Enclosure) : route g f e = f (bridgeOf g) (g % 4) e := if_neg (by omega)

theorem route_of_le {f : Bridge → Nat → Enclosure → Enclosure × Result Unit} {g : Nat} (hg : 8 ≤ g)
    (e : Enclosure) : route g f e = (e, .error .invalidArgument) := if_pos hg

/-- An operation on a receiver that an enclosure does not have. -/
theorem call_of_le {op : Call} {g : Nat} (hop : op.receiver? = some g) (hg : 8 ≤ g) :
    call e op = (e, .error .invalidArgument) := by
  cases op with
  | setCardPower on => cases hop
  | markBridgeDisconnected bridge => cases hop
  | _ =>
    obtain rfl := Option.some.inj hop
    unfold call
    exact route_of_le hg e

section

variable {op : Call} {g : Nat}

theorem opens_of_ne (h : op.receiver? ≠ some g) : (eventOf e op).opens g = false := by
  cases op with
  | «open» r system =>
    have hr : r ≠ g := fun hr => h (congrArg some hr)
    simp [Event.opens, eventOf, hr]
  | _ => rfl

theorem tunes_of_ne (h : op.receiver? ≠ some g) : (eventOf e op).tunes g = false := by
  cases op with
  | tune r khz system timeout =>
    have hr : r ≠ g := fun hr => h (congrArg some hr)
    simp [Event.tunes, eventOf, hr]
  | _ => rfl

/-- The receivers of `f` other than its own. -/
theorem Aside.route {f : Bridge → Nat → Enclosure → Enclosure × Result Unit} {r : Nat}
    (hr : some r ≠ some g) (hg : g < 8)
    (h : ∀ b' j, Apart (bridgeOf g) (g % 4) b' j → Aside (bridgeOf g) (g % 4) e (f b' j e).1) :
    Aside (bridgeOf g) (g % 4) e (Frontend.route r f e).1 := by
  by_cases hlt : r < 8
  · rw [route_of_lt hlt]
    exact h _ _ (apart_of_ne hg hlt fun hgr => hr (congrArg some hgr.symm))
  · rw [route_of_le (by omega)]
    exact .refl _ _ e

theorem tuneReceiver_apart {khz timeout : Nat} {system : System} (h : Apart b i bridge receiver)
    (hr : receiver < 4) : Aside b i e (tuneReceiver bridge receiver khz system timeout e).1 := by
  by_cases htunable : Tunable (e.bank bridge) receiver system
  · obtain ⟨-, hafter⟩ := tuneReceiver_tunable khz timeout hr htunable
    have hquiet := (tuneChips_quiet (b := b) (i := i) bridge receiver khz system timeout
      e.wire).1
    rw [hafter]
    dsimp only
    split
    · exact (Aside.of_wire hquiet).trans (.setState fun hb hi => absurd hi (h hb))
    · exact .of_wire hquiet
  · rw [tuneReceiver_not_tunable htunable]
    exact .refl b i e

theorem selectSatelliteTsid_apart (h : Apart b i bridge receiver) (tsid timeout : Nat)
    (e : Enclosure) : Aside b i e (selectSatelliteTsid bridge receiver tsid timeout e).1 := by
  unfold selectSatelliteTsid
  dsimp only
  iterate 3
    split
    · exact .refl b i e
  exact (selectTsid_spec bridge receiver tsid timeout e).2 h

theorem selectSatelliteSlot_apart (h : Apart b i bridge receiver) (slot timeout : Nat)
    (e : Enclosure) : Aside b i e (selectSatelliteSlot bridge receiver slot timeout e).1 := by
  have hpoll : Aside b i e (e.setWire (pollTmcc bridge receiver slot timeout (timeout / 10 + 1) 0 0
      none e.wire).1) := .of_wire (.pollTmcc _ _ _ _ _ _ _ _)
  unfold selectSatelliteSlot
  dsimp only
  iterate 4
    split
    · exact .refl b i e
  split
  · rename_i w failed heq
    rw [heq] at hpoll
    exact hpoll
  · rename_i w tsid remaining heq
    rw [heq] at hpoll
    exact hpoll.trans ((selectTsid_spec bridge receiver tsid remaining _).2 h)

/-- An operation on another receiver, or on none. -/
theorem call_apart (hg : g < 8) (hop : op.receiver? ≠ some g) :
    Ended (bridgeOf g) (g % 4) (call e op).1 ∧ Renewed e op ∨
      Aside (bridgeOf g) (g % 4) e (call e op).1 := by
  cases op with
  | «open» r system =>
    exact .inr (.route hop hg fun b' j h => (openReceiver_ended rfl).2 h)
  | tune r khz system timeout =>
    refine .inr ?_
    by_cases hr : r < 8
    · simp only [call, route_of_lt hr]
      exact tuneReceiver_apart (apart_of_ne hg hr fun hgr => hop (congrArg some hgr.symm))
        (Nat.mod_lt _ (by decide))
    · rw [call_of_le rfl (by omega)]
      exact .refl _ _ e
  | selectSlot r slot timeout =>
    exact .inr (.route hop hg fun b' j h => selectSatelliteSlot_apart h slot timeout e)
  | selectTsid r tsid timeout =>
    exact .inr (.route hop hg fun b' j h => selectSatelliteTsid_apart h tsid timeout e)
  | startCapture r system => exact .inr (.route hop hg fun b' j _ => .startCapture j system e)
  | stopCapture r system => exact .inr (.route hop hg fun b' j _ => .stopCapture j system e)
  | isLocked r system => exact .inr (.route hop hg fun b' j _ => .isLocked j system e)
  | close r => exact .inr (.route hop hg fun b' j h => (closeReceiver_ended b' j e).2 h)
  | setCardPower on => exact .inr (.setCardPower on e)
  | markBridgeDisconnected bridge =>
    exact (markBridgeDisconnected_ended bridge e).imp (⟨·, trivial⟩) id

/-! ## An operation on the receiver -/

/-- A tune of the receiver. -/
theorem tune_effect (hg : g < 8) (khz : Nat) (system : System) (timeout : Nat) (e : Enclosure) :
    Effect e (.tune g khz system timeout) g := by
  have hcall : call e (.tune g khz system timeout) =
      tuneReceiver (bridgeOf g) (g % 4) khz system timeout e := by
    simp only [call, route_of_lt hg]
  by_cases htunable : Tunable (e.bank (bridgeOf g)) (g % 4) system
  · obtain ⟨hresult, hafter⟩ := tuneReceiver_tunable khz timeout
      (Nat.mod_lt g (by decide)) htunable
    obtain ⟨hquiet, hlt⟩ := tuneChips_quiet (b := bridgeOf g) (i := g % 4) (bridgeOf g)
      (g % 4) khz system timeout e.wire
    obtain ⟨-, hsystem, hstate⟩ := id htunable
    have hrenewed : Renewed e (.tune g khz system timeout) ↔
        (((e.bank (bridgeOf g)).receiverState (g % 4)).tunedIn = true →
          (tuneChips (bridgeOf g) (g % 4) khz system timeout e.wire).2 = .ok ()) ∧
        (systemOf (g % 4) = .isdbS →
          (e.bank (bridgeOf g)).satelliteSelected (g % 4) = false) := by
      have htuned : ((e.bank (bridgeOf g)).receiverState (g % 4)).tunedIn = true ↔
          (e.bank (bridgeOf g)).receiverState (g % 4) = .tuned := by
        rcases hstate with h | h <;> rw [h] <;> decide
      rw [htuned, ← hsystem]
      exact ⟨fun h => h hg htunable, fun h _ _ => h⟩
    rw [← hresult] at hrenewed
    rw [← hcall] at hresult hafter hrenewed
    have hwire : (call e (.tune g khz system timeout)).1.wire =
        (tuneChips (bridgeOf g) (g % 4) khz system timeout e.wire).1 := by
      rw [hafter]
      dsimp only
      split <;> rfl
    refine .tune ?_ rfl ?_ ?_ ?_ hrenewed
    · rw [hwire]
      exact hquiet
    · rw [← hwire] at hlt
      simp only [Event.tunes, eventOf, beq_self_eq_true, Bool.true_and]
      exact decide_eq_true hlt
    · rw [hresult, hafter]
      dsimp only
      split
      · rename_i hok
        rw [setBank_self, hok, Bool.or_true]
        exact congrArg _ (Function.update_self _ _ _)
      · rename_i hfailed
        rw [Bool.not_eq_true] at hfailed
        rw [hfailed, Bool.or_false]
        rfl
    · rw [hafter]
      dsimp only
      split
      · rw [setBank_self]
        rfl
      · rfl
  · have hsame : (call e (.tune g khz system timeout)).1 = e := by
      rw [hcall, tuneReceiver_not_tunable htunable]
    refine .aside ?_ rfl ?_ fun _ _ h => absurd h htunable
    · rw [hsame]
      exact .refl _ _ e
    · simp [Event.tunes, eventOf, hsame]

/-- A selection that reaches the demodulator of a receiver, after accesses that write no TSID. -/
theorem select_effect {tsid timeout : Nat} {e₁ : Enclosure}
    (hcall : call e op = selectTsid (bridgeOf g) (g % 4) tsid timeout e₁)
    (hwire : Quiet (bridgeOf g) (g % 4) e.wire e₁.wire) (hbank : e₁.bank = e.bank)
    (hop : (eventOf e op).opens g = false) (htunes : (eventOf e op).tunes g = false)
    (hselectable : Selectable (e.bank (bridgeOf g)) (g % 4))
    (hrenewed : Renewed e op ↔
      Reselected (bridgeOf g) (e.bank (bridgeOf g)) (g % 4) tsid timeout e₁.wire) :
    Effect e op g := by
  obtain ⟨-, hr, hstate⟩ := hselectable
  obtain ⟨hselects, -⟩ := selectTsid_spec (b := bridgeOf g) (i := g % 4) (bridgeOf g)
    (g % 4) tsid timeout e₁
  obtain ⟨hresult, -⟩ := selectTsid_eq (bridgeOf g) (g % 4) tsid timeout e₁
  rw [← hcall] at hselects hresult
  refine .select tsid ⟨?_, ?_, fun hok => ?_, fun herror => ?_⟩ hop htunes (if_pos hr) ?_ ?_
  · obtain ⟨w₁, hbefore, hafter⟩ := hselects.wrote
    exact ⟨w₁, hwire.trans hbefore, hafter⟩
  · rw [hselects.state, hbank]
  · obtain ⟨hread, hrest⟩ := hselects.ok hok
    exact ⟨hread.mono hwire.le, hrest⟩
  · rw [← hbank]
    exact hselects.error herror
  · rw [hstate]
    rfl
  · rw [hrenewed, hresult]
    exact Iff.rfl

theorem selectTsid_effect (hg : g < 8) (tsid timeout : Nat) (e : Enclosure) :
    Effect e (.selectTsid g tsid timeout) g := by
  have hcall : call e (.selectTsid g tsid timeout) =
      selectSatelliteTsid (bridgeOf g) (g % 4) tsid timeout e := by
    simp only [call, route_of_lt hg]
  by_cases hselectable : Selectable (e.bank (bridgeOf g)) (g % 4)
  · obtain ⟨hconnected, hr, hstate⟩ := id hselectable
    have hchips : selectSatelliteTsid (bridgeOf g) (g % 4) tsid timeout e =
        selectTsid (bridgeOf g) (g % 4) tsid timeout e := by
      unfold selectSatelliteTsid
      dsimp only
      rw [if_neg (by simp [hconnected]), if_neg (by omega), if_neg (not_not.2 hstate)]
    exact select_effect (hcall.trans hchips) (.refl _ _ _) rfl rfl rfl hselectable
      ⟨fun h => h hg hselectable, fun h _ _ => h⟩
  · have hsame : (call e (.selectTsid g tsid timeout)).1 = e := by
      rw [hcall]
      unfold selectSatelliteTsid
      dsimp only
      split
      · rfl
      rename_i hconnected
      split
      · rfl
      rename_i hr
      split
      · rfl
      rename_i hstate
      exact absurd ⟨Bool.not_eq_true _ ▸ hconnected, by omega, not_not.1 hstate⟩ hselectable
    refine .aside ?_ rfl rfl fun _ _ h => absurd h hselectable
    rw [hsame]
    exact .refl _ _ e

theorem selectSlot_effect (hg : g < 8) (slot timeout : Nat) (e : Enclosure) :
    Effect e (.selectSlot g slot timeout) g := by
  have hcall : call e (.selectSlot g slot timeout) =
      selectSatelliteSlot (bridgeOf g) (g % 4) slot timeout e := by
    simp only [call, route_of_lt hg]
  by_cases hselectable : slot < 12 ∧ Selectable (e.bank (bridgeOf g)) (g % 4)
  · obtain ⟨hslot, hselectable⟩ := hselectable
    obtain ⟨hconnected, hr, hstate⟩ := id hselectable
    have hpoll : Quiet (bridgeOf g) (g % 4) e.wire (pollTmcc (bridgeOf g) (g % 4) slot timeout
      (timeout / 10 + 1) 0 0 none e.wire).1 := .pollTmcc _ _ _ _ _ _ _ _
    unfold selectSatelliteSlot at hcall
    dsimp only at hcall
    rw [if_neg (by simp [hconnected]), if_neg (by omega), if_neg (by omega),
      if_neg (not_not.2 hstate)] at hcall
    have hrenewed (P : Prop) (h : Renewed e (.selectSlot g slot timeout) ↔
      (g < 8 → slot < 12 → Selectable (e.bank (bridgeOf g)) (g % 4) → P)) :
        Renewed e (.selectSlot g slot timeout) ↔ P :=
      h.trans ⟨fun h => h hg hslot hselectable, fun h _ _ _ => h⟩
    split at hcall
    · rename_i w failed heq
      rw [heq] at hpoll
      refine .aside ?_ rfl rfl fun _ => (hrenewed True ?_).2 trivial
      · rw [hcall]
        exact .of_wire hpoll
      · simp only [Renewed, heq]
    · rename_i w tsid remaining heq
      rw [heq] at hpoll
      refine select_effect hcall hpoll rfl rfl rfl hselectable (hrenewed _ ?_)
      simp only [Renewed, heq]
      exact Iff.rfl
  · have hsame : (call e (.selectSlot g slot timeout)).1 = e := by
      rw [hcall]
      unfold selectSatelliteSlot
      dsimp only
      split
      · rfl
      rename_i hconnected
      split
      · rfl
      rename_i hr
      split
      · rfl
      rename_i hslot
      split
      · rfl
      rename_i hstate
      exact absurd ⟨by omega, Bool.not_eq_true _ ▸ hconnected, by omega,
        not_not.1 hstate⟩ hselectable
    refine .aside ?_ rfl rfl fun _ _ hslot h => absurd ⟨hslot, h⟩ hselectable
    rw [hsame]
    exact .refl _ _ e

/-- **What an operation can do to a receiver.** -/
theorem call_effect (hg : g < 8) (e : Enclosure) (op : Call) : Effect e op g := by
  by_cases hop : op.receiver? = some g
  case neg =>
    rcases call_apart hg hop with ⟨hended, hrenewed⟩ | haside
    · exact .ended hended hrenewed
    · exact .aside haside (opens_of_ne hop) (tunes_of_ne hop) fun h => absurd h hop
  cases op with
  | «open» r system =>
    obtain rfl := Option.some.inj hop
    have hcall : call e (.open r system) = openReceiver (bridgeOf r) (r % 4) system e := by
      simp only [call, route_of_lt hg]
    have hopen : Ended (bridgeOf r) (r % 4) (call e (.open r system)).1 ∨
        Aside (bridgeOf r) (r % 4) e (call e (.open r system)).1 ∧
          (call e (.open r system)).2.isOk = false :=
      (openReceiver_ended (b := .dev1) (i := 0) hcall.symm).1
    rcases hopen with hended | ⟨haside, hfailed⟩
    · exact .ended hended trivial
    · refine .aside haside ?_ rfl fun _ => trivial
      simp [Event.opens, eventOf, hfailed]
  | tune r khz system timeout =>
    obtain rfl := Option.some.inj hop
    exact tune_effect hg khz system timeout e
  | selectSlot r slot timeout =>
    obtain rfl := Option.some.inj hop
    exact selectSlot_effect hg slot timeout e
  | selectTsid r tsid timeout =>
    obtain rfl := Option.some.inj hop
    exact selectTsid_effect hg tsid timeout e
  | startCapture r system =>
    obtain rfl := Option.some.inj hop
    refine .aside ?_ rfl rfl fun _ => trivial
    simp only [call, route_of_lt hg]
    exact .startCapture _ _ _
  | stopCapture r system =>
    obtain rfl := Option.some.inj hop
    refine .aside ?_ rfl rfl fun _ => trivial
    simp only [call, route_of_lt hg]
    exact .stopCapture _ _ _
  | isLocked r system =>
    obtain rfl := Option.some.inj hop
    refine .aside ?_ rfl rfl fun _ => trivial
    simp only [call, route_of_lt hg]
    exact .isLocked _ _ _
  | close r =>
    obtain rfl := Option.some.inj hop
    have hclose := (closeReceiver_ended (b := .dev1) (i := 0) (bridgeOf r) (r % 4) e).1
    have hcall : call e (.close r) = closeReceiver (bridgeOf r) (r % 4) e := by
      simp only [call, route_of_lt hg]
    rw [← hcall] at hclose
    rcases hclose with hended | haside
    · exact .ended hended trivial
    · exact .aside haside rfl rfl fun _ => trivial
  | setCardPower on => cases hop
  | markBridgeDisconnected bridge => cases hop

end

end Px4.Frontend
