import Px4.Frontend.Capture
import Px4.Frontend.Proof.Ownership

/-!
# Operations aside from a receiver's tuning

`Quiet`: accesses that write no TSID to one demodulator. `Aside`: what a capture of one receiver
depends on is as it was, and the accesses were quiet. Every part of every operation is aside from
every receiver it is not on.
-/

namespace Px4.Frontend

open Px4.Power (Bridge)

/-! ## Accesses that write no TSID -/

/-- Accesses were made, none of which writes a TSID to the demodulator. -/
def Quiet (b : Bridge) (i : Nat) (w w' : Wire) : Prop :=
  w'.replies = w.replies ∧ ∃ more, w'.log = w.log ++ more ∧ ∀ a ∈ more, tsidOf b i a = none

variable {b bridge : Bridge} {i receiver : Nat} {w w' w'' : Wire} {e e' e'' : Enclosure}

theorem Quiet.refl (b : Bridge) (i : Nat) (w : Wire) : Quiet b i w w := ⟨rfl, [], by simp, by simp⟩

theorem Quiet.trans (h : Quiet b i w w') (h' : Quiet b i w' w'') : Quiet b i w w'' := by
  obtain ⟨hreplies, more, hlog, hmore⟩ := h
  obtain ⟨hreplies', more', hlog', hmore'⟩ := h'
  refine ⟨hreplies'.trans hreplies, more ++ more', ?_, fun a ha => ?_⟩
  · rw [hlog', hlog, List.append_assoc]
  · rcases List.mem_append.1 ha with ha | ha
    · exact hmore a ha
    · exact hmore' a ha

theorem Quiet.le (h : Quiet b i w w') : w.log.length ≤ w'.log.length := by
  obtain ⟨-, more, hlog, -⟩ := h
  rw [hlog, List.length_append]
  omega

theorem Quiet.access {a : Access} (ha : tsidOf b i (bridge, a) = none) (w : Wire) :
    Quiet b i w (w.access bridge a).1 := by
  refine ⟨rfl, [(bridge, a)], rfl, fun a' ha' => ?_⟩
  obtain rfl := List.mem_singleton.1 ha'
  exact ha

theorem Quiet.perform {a : Access} (ha : tsidOf b i (bridge, a) = none) (w : Wire) :
    Quiet b i w (w.perform bridge a).1 := Quiet.access ha w

theorem Quiet.commands {cs : List Command} (h : ∀ c ∈ cs, tsidOf b i (bridge, .i2c c) = none)
    (w : Wire) : Quiet b i w (w.commands bridge cs).1 := by
  induction cs generalizing w with
  | nil => exact .refl b i w
  | cons c cs ih =>
    have hc := Quiet.perform (h c (List.mem_cons_self)) w
    unfold Wire.commands
    split
    · rename_i w₁ error heq
      rw [heq] at hc
      exact hc
    · rename_i w₁ heq
      rw [heq] at hc
      exact hc.trans (ih (fun c' hc' => h c' (List.mem_cons_of_mem _ hc')) w₁)

theorem Quiet.sleepFrontend (index : Nat) (w : Wire) :
    Quiet b i w (sleepFrontend bridge index w).1 :=
  .commands (by simp [tsidOf]) w

theorem Quiet.wakeFrontend (receiver : Nat) (system : System) (w : Wire) :
    Quiet b i w (wakeFrontend bridge receiver system w).1 := by
  cases system
  · exact .commands (by simp [tsidOf]) w
  · exact .commands (by simp [tsidOf]) w

theorem Quiet.writeSharedInitialization (w : Wire) :
    Quiet b i w (writeSharedInitialization bridge w).1 :=
  .commands (by simp [tsidOf]) w

theorem Quiet.pollPll (receiver timeout polls elapsed : Nat) (last : Option Error) (w : Wire) :
    Quiet b i w (pollPll bridge receiver timeout polls elapsed last w).1 := by
  induction polls generalizing elapsed last w with
  | zero => exact .refl b i w
  | succ polls ih =>
    have hread : Quiet b i w (w.access bridge (.i2c (.isPllLocked receiver))).1 := .access rfl w
    unfold Frontend.pollPll
    split
    · rename_i w₁ value heq
      rw [heq] at hread
      exact hread
    · rename_i w₁ status _ heq
      rw [heq] at hread
      dsimp only
      split
      · exact hread
      · exact hread.trans (ih _ _ _)

theorem Quiet.pollTmcc (receiver slot timeout polls count elapsed : Nat) (last : Option Error)
    (w : Wire) :
    Quiet b i w (pollTmcc bridge receiver slot timeout polls count elapsed last w).1 := by
  induction polls generalizing count elapsed last w with
  | zero => exact .refl b i w
  | succ polls ih =>
    have hread : Quiet b i w (w.access bridge (.i2c (.tmccGetTsid receiver slot))).1 :=
      .access rfl w
    unfold Frontend.pollTmcc
    dsimp only
    generalize (if (count + 1) * 10 ≤ timeout then elapsed + 10 else elapsed) = elapsed'
    split
    all_goals
      rename_i heq
      rw [heq] at hread
    · exact hread
    · exact hread.trans (ih _ _ _ _)
    · exact hread.trans (ih _ _ _ _)

theorem Quiet.pollTsid (receiver tsid polls : Nat) (last : Option Error) (w : Wire) :
    Quiet b i w (pollTsid bridge receiver tsid polls last w).1 := by
  induction polls generalizing last w with
  | zero => exact .refl b i w
  | succ polls ih =>
    have hread : Quiet b i w (w.access bridge (.i2c (.getTsid receiver))).1 := .access rfl w
    unfold Frontend.pollTsid
    split
    · rename_i w₁ value heq
      rw [heq] at hread
      split
      · exact hread
      · exact hread.trans (ih _ _)
    · rename_i w₁ error heq
      rw [heq] at hread
      exact hread.trans (ih _ _)

/-- The first of the commands is an access in any case. -/
theorem commands_lt {c : Command} {cs : List Command}
    (h : ∀ c' ∈ cs, tsidOf b i (bridge, .i2c c') = none) (w : Wire) :
    w.log.length < (w.commands bridge (c :: cs)).1.log.length := by
  have hfirst : (w.perform bridge (.i2c c)).1.log.length = w.log.length + 1 :=
    List.length_append
  unfold Wire.commands
  split
  · rename_i w₁ error heq
    rw [heq] at hfirst
    exact Nat.lt_of_lt_of_eq (Nat.lt_succ_self _) hfirst.symm
  · rename_i w₁ heq
    rw [heq] at hfirst
    have hrest := (Quiet.commands (b := b) (i := i) h w₁).le
    exact Nat.lt_of_lt_of_le (Nat.lt_of_lt_of_eq (Nat.lt_succ_self _) hfirst.symm) hrest

/-- The commands around the poll of the PLL, as `tuneChips` sends them. -/
def polled (bridge : Bridge) (receiver timeout : Nat) (before after : List Command) (w : Wire) :
    Wire × Result Unit :=
  match w.commands bridge before with
  | (w, .error e) => (w, .error e)
  | (w, .ok ()) =>
    match Frontend.pollPll bridge receiver timeout ((timeout + 9) % 2 ^ 32 / 10) 0 none w with
    | (w, .error e) => (w, .error e)
    | (w, .ok ()) => w.commands bridge after

theorem polled_quiet {bridge : Bridge} {receiver timeout : Nat} {c : Command}
    {before after : List Command}
    (hbefore : ∀ c' ∈ c :: before, tsidOf b i (bridge, .i2c c') = none)
    (hafter : ∀ c' ∈ after, tsidOf b i (bridge, .i2c c') = none) (w : Wire) :
    Quiet b i w (polled bridge receiver timeout (c :: before) after w).1 ∧
      w.log.length < (polled bridge receiver timeout (c :: before) after w).1.log.length := by
  have h1 := Quiet.commands hbefore w
  have hlt := commands_lt (c := c) (fun c' hc' => hbefore c' (List.mem_cons_of_mem _ hc')) w
  have hrest : Quiet b i (w.commands bridge (c :: before)).1
      (polled bridge receiver timeout (c :: before) after w).1 := by
    unfold polled
    split
    · rename_i w₁ error heq
      rw [heq]
      exact .refl b i w₁
    · rename_i w₁ heq
      rw [heq]
      have h2 : Quiet b i w₁ (Frontend.pollPll bridge receiver timeout
        ((timeout + 9) % 2 ^ 32 / 10) 0 none w₁).1 := .pollPll _ _ _ _ _ w₁
      split
      · rename_i w₂ error heq'
        rw [heq'] at h2
        exact h2
      · rename_i w₂ heq'
        rw [heq'] at h2
        exact h2.trans (.commands hafter w₂)
  exact ⟨h1.trans hrest, Nat.lt_of_lt_of_le hlt hrest.le⟩

/-- **What a tune does to the chips** writes no TSID, and is an access in any case. -/
theorem tuneChips_quiet (bridge : Bridge) (receiver khz : Nat) (system : System)
    (timeout : Nat) (w : Wire) :
    Quiet b i w (tuneChips bridge receiver khz system timeout w).1 ∧
      w.log.length < (tuneChips bridge receiver khz system timeout w).1.log.length := by
  cases system
  · exact polled_quiet (by simp [tsidOf]) (by simp [tsidOf]) w
  · exact polled_quiet (by simp [tsidOf]) (by simp [tsidOf]) w

/-! ## Parts of operations -/

/-- The receiver is tuned or capturing. -/
def ReceiverState.tunedIn : ReceiverState → Bool
  | .closed | .opened => false
  | .tuned | .capturing => true

/-- What a capture of the receiver depends on is as it was. -/
structure Aside (b : Bridge) (i : Nat) (e e' : Enclosure) : Prop where
  wire : Quiet b i e.wire e'.wire
  tunedIn : ((e'.bank b).receiverState i).tunedIn = ((e.bank b).receiverState i).tunedIn
  selected : (e'.bank b).satelliteSelected i = (e.bank b).satelliteSelected i
  tsid : (e'.bank b).selectedTsid i = (e.bank b).selectedTsid i

theorem Aside.refl (b : Bridge) (i : Nat) (e : Enclosure) : Aside b i e e :=
  ⟨.refl b i _, rfl, rfl, rfl⟩

theorem Aside.trans (h : Aside b i e e') (h' : Aside b i e' e'') : Aside b i e e'' :=
  ⟨h.wire.trans h'.wire, h'.tunedIn.trans h.tunedIn, h'.selected.trans h.selected,
    h'.tsid.trans h.tsid⟩

/-- Accesses alone. -/
theorem Aside.of_wire (h : Quiet b i e.wire w) : Aside b i e (e.setWire w) := ⟨h, rfl, rfl, rfl⟩

/-- Accesses and another state of a coordinator. -/
theorem Aside.of_bank (hwire : Quiet b i e.wire e'.wire) (hbank : e'.bank = e.bank) :
    Aside b i e e' := by
  refine ⟨hwire, ?_, ?_, ?_⟩ <;> rw [hbank]

/-- Another state of a bank. -/
theorem Aside.setBank {bank : Bank} (htuned : b = bridge →
      (bank.receiverState i).tunedIn = ((e.bank b).receiverState i).tunedIn)
    (hselected : b = bridge → bank.satelliteSelected i = (e.bank b).satelliteSelected i)
    (htsid : b = bridge → bank.selectedTsid i = (e.bank b).selectedTsid i) :
    Aside b i e (e.setBank bridge bank) := by
  by_cases hb : b = bridge
  · subst hb
    refine ⟨.refl b i _, ?_, ?_, ?_⟩ <;> rw [setBank_self]
    · exact htuned rfl
    · exact hselected rfl
    · exact htsid rfl
  · refine ⟨.refl b i _, ?_, ?_, ?_⟩ <;> rw [setBank_of_ne e hb]

/-- Another state of a receiver, as much tuned as before. -/
theorem Aside.setState {state : ReceiverState} (h : b = bridge → i = receiver →
      state.tunedIn = ((e.bank bridge).receiverState receiver).tunedIn) :
    Aside b i e (e.setBank bridge ((e.bank bridge).setState receiver state)) := by
  refine .setBank (fun hb => ?_) (fun hb => by rw [hb]; rfl) (fun hb => by rw [hb]; rfl)
  subst hb
  show (Function.update (e.bank b).receiverState receiver state i).tunedIn = _
  by_cases hi : i = receiver
  · subst hi
    rw [Function.update_self]
    exact h rfl rfl
  · rw [Function.update_of_ne hi]

/-- The receiver is not this one. -/
def Apart (b : Bridge) (i : Nat) (bridge : Bridge) (receiver : Nat) : Prop :=
  b = bridge → i ≠ receiver

theorem Aside.setSelection (h : Apart b i bridge receiver) (selected : Bool) (tsid : Nat) :
    Aside b i e (e.setBank bridge ((e.bank bridge).setSelection receiver selected tsid)) := by
  refine .setBank (fun hb => by rw [hb]; rfl) (fun hb => ?_) (fun hb => ?_)
  · rw [hb]
    exact Function.update_of_ne (h hb) _ _
  · rw [hb]
    exact Function.update_of_ne (h hb) _ _

theorem Aside.forget (h : Apart b i bridge receiver) :
    Aside b i e (forget bridge receiver e) := by
  have hstate : Aside b i e (e.setBank bridge ((e.bank bridge).setState receiver .closed)) :=
    .setState fun hb hi => absurd hi (h hb)
  have hselection := Aside.setSelection (e := e.setBank bridge
    ((e.bank bridge).setState receiver .closed)) h false 0
  rw [setBank_self] at hselection
  have htwice : (e.setBank bridge ((e.bank bridge).setState receiver .closed)).setBank bridge
      (((e.bank bridge).setState receiver .closed).setSelection receiver false 0) =
      Frontend.forget bridge receiver e := by
    unfold Frontend.forget Enclosure.setBank
    rw [Function.update_idem]
  rw [htwice] at hselection
  exact hstate.trans hselection

theorem Aside.setTuner (index : Nat) (value : Bool) :
    Aside b i e (e.setBank bridge ((e.bank bridge).setTuner index value)) :=
  .setBank (fun hb => by rw [hb]; rfl) (fun hb => by rw [hb]; rfl) (fun hb => by rw [hb]; rfl)

/-! ## Chips -/

theorem Aside.sleepReceiver (receiver : Nat) (e : Enclosure) :
    Aside b i e (sleepReceiver bridge receiver e).1 := .of_wire (.sleepFrontend receiver e.wire)

theorem Aside.terminateLoop (indices : List Nat) (first : Option Error) (e : Enclosure) :
    Aside b i e (terminateLoop bridge indices first e).1 := by
  induction indices generalizing first e with
  | nil => exact .refl b i e
  | cons index rest ih =>
    unfold Frontend.terminateLoop
    split
    · have hwire : Aside b i e
          (e.setWire (e.wire.perform bridge (.i2c (.terminate index))).1) :=
        .of_wire (.perform rfl e.wire)
      exact (hwire.trans (.setTuner index false)).trans (ih _ _)
    · exact ih _ _

theorem Aside.terminateInitialized (e : Enclosure) :
    Aside b i e (terminateInitialized bridge e).1 := Aside.terminateLoop [3, 2, 1, 0] none e

theorem Aside.initializeTuners (indices : List Nat) (e : Enclosure) :
    Aside b i e (initializeTuners bridge indices e).1 := by
  induction indices generalizing e with
  | nil => exact .refl b i e
  | cons index rest ih =>
    have hwire : Aside b i e (e.setWire (e.wire.perform bridge (.i2c (.initTuner index))).1) :=
      .of_wire (.perform rfl e.wire)
    unfold Frontend.initializeTuners
    split
    · rename_i w failure heq
      rw [heq] at hwire
      exact hwire
    · rename_i w heq
      rw [heq] at hwire
      exact (hwire.trans (.setTuner index true)).trans (ih _)

theorem Aside.sleepOthers (indices : List Nat) (e : Enclosure) :
    Aside b i e (sleepOthers bridge indices e).1 := by
  induction indices generalizing e with
  | nil => exact .refl b i e
  | cons index rest ih =>
    have hsleep : Aside b i e (Frontend.sleepReceiver bridge index e).1 := .sleepReceiver index e
    unfold Frontend.sleepOthers
    split
    · rename_i e₁ failure heq
      rw [heq] at hsleep
      exact hsleep
    · rename_i e₁ heq
      rw [heq] at hsleep
      exact hsleep.trans (ih _)

theorem Aside.prepareBank (receiver : Nat) (e : Enclosure) :
    Aside b i e (prepareBank bridge receiver e).1 := by
  have htuners : Aside b i e (Frontend.initializeTuners bridge (List.range 4) e).1 :=
    .initializeTuners _ e
  unfold Frontend.prepareBank
  split
  · rename_i e₁ failure heq
    rw [heq] at htuners
    exact htuners
  · rename_i e₁ heq
    rw [heq] at htuners
    exact htuners.trans (.sleepOthers _ _)

theorem Aside.openChips (receiver : Nat) (system : System) (firstOpen : Bool) (e : Enclosure) :
    Aside b i e (openChips bridge receiver system firstOpen e).1 := by
  have hprepare : Aside b i e
      (if firstOpen then Frontend.prepareBank bridge receiver e else (e, .ok ())).1 := by
    split
    · exact .prepareBank receiver e
    · exact .refl b i e
  unfold Frontend.openChips
  split
  · rename_i e₁ failure heq
    rw [heq] at hprepare
    exact hprepare
  rename_i e₁ heq
  rw [heq] at hprepare
  have hwake : Quiet b i e₁.wire (Frontend.wakeFrontend bridge receiver system e₁.wire).1 :=
    .wakeFrontend receiver system e₁.wire
  split
  · rename_i w wake heq'
    rw [heq'] at hwake
    exact hprepare.trans (.of_wire hwake)
  · rename_i w heq'
    rw [heq'] at hwake
    split
    · exact hprepare.trans (.of_wire (hwake.trans (.writeSharedInitialization w)))
    · exact hprepare.trans (.of_wire hwake)

/-! ## Power -/

/-- The coordinator writes no TSID. -/
theorem quiet_rule (b : Bridge) (i : Nat) (w : Wire) :
    Power.Rule wireBackend fun s => Quiet b i w s.hw where
  bridge j on s h := by
    have hperform : Quiet b i s.hw (wireBackend j on s.hw).1 := .perform rfl s.hw
    unfold Power.setBridge
    dsimp only
    split
    · exact h
    split
    · exact h
    split
    all_goals
      rename_i heq
      rw [heq] at hperform
      exact h.trans hperform
  references _ _ _ h := h

theorem Aside.acquirePower (receiver : Nat) (e : Enclosure) :
    Aside b i e (acquirePower bridge receiver e).1 := by
  unfold Frontend.acquirePower
  dsimp only
  split
  · exact .refl b i e
  · exact .of_bank ((quiet_rule b i e.wire).acquireReceiver _ (.refl b i e.wire)) rfl

theorem Aside.releasePower (receiver : Nat) (e : Enclosure) :
    Aside b i e (releasePower bridge receiver e).1 := by
  have hrelease := (quiet_rule b i e.wire).releaseReceiver (globalBase bridge + receiver)
    (s := e.power) (.refl b i e.wire)
  unfold Frontend.releasePower
  dsimp only
  split
  · exact .refl b i e
  split
  all_goals
    rename_i heq
    rw [heq] at hrelease
    exact .of_bank hrelease rfl

theorem Aside.setCardPower (on : Bool) (e : Enclosure) : Aside b i e (setCardPower on e).1 := by
  have hrule := quiet_rule b i e.wire
  have hacquire : Aside b i e (acquireCard e).1 :=
    .of_bank (hrule.acquireCard (s := e.power) (.refl b i e.wire)) rfl
  have hrelease := hrule.releaseCard (s := e.power) (.refl b i e.wire)
  have hreconcile := hrule.reconcile (s := e.power) (.refl b i e.wire)
  unfold Frontend.setCardPower
  split
  · split
    · exact .refl b i e
    · split
      · rename_i e₁ heq
        rw [heq] at hacquire
        exact hacquire.trans (.of_bank (.refl b i _) rfl)
      · rename_i e₁ acquired heq
        rw [heq] at hacquire
        exact hacquire
  split
  · exact .of_bank hreconcile rfl
  · unfold Frontend.releaseCard
    split
    all_goals
      rename_i heq
      have hrelease' : Quiet b i e.wire
          (Power.releaseCard wireBackend (e.setCard false).power).1.hw :=
        hrelease
      rw [heq] at hrelease'
      exact .of_bank hrelease' rfl

end Px4.Frontend
