import Px4.Card.Proof.Fits

/-!
# Commands that are executed once

* `transmit_spec`: what a transmission does to the card, and the frames that it writes.
* `transmit_resetFirst`: a session that is not initialized writes nothing before a reset.
* `transmit_once`: a command that succeeds has been executed once, and its response is returned.
-/

namespace Px4.Card

open Lib (Program Plays)
open Lib.Program (After)

/-! ## Transmissions -/

/-- What holds after a failure, when the session has been invalidated. -/
def Invalidated (R : Stop → World CardSession → Prop) : Stop → World CardSession → Prop
  | .failure e, w => R (.failure e) (w.withSession {})
  | .undefined, w => R .undefined w

theorem after_invalidating {α : Type} {x : Session α} {w : World CardSession}
    {Q : α → World CardSession → Prop} {R : Stop → World CardSession → Prop}
    (h : After x w Q (Invalidated R)) : After (invalidating x) w Q R := by
  refine (Program.after_bind _).2 (after_attempt (h.mono (fun _ _ h => h) fun stop w' h => ?_))
  cases stop with
  | failure e => exact h
  | undefined => exact h

/-- **A transmission**: the card is detected, a session that is not initialized is, and the command
is sent. -/
theorem after_transmit {fuel : Nat} {apdu : ByteView} {capacity : Option Nat}
    {w : World CardSession} {Q : List UInt8 → World CardSession → Prop}
    {R : Stop → World CardSession → Prop}
    (habsent : ∀ answer e, R (.failure e) ((w.answered .detectCard answer).withSession {}))
    (hpresent : ∀ later, After (if w.session.initialized = false then
      initializeSession fuel else pure ())
      (w.answered .detectCard (.ok true, later))
      (fun _ w₁ => After (deadlineAfter kOperationTimeoutMs) w₁
        (fun deadline w₂ => After (transmitInitialized fuel apdu capacity deadline) w₂ Q
          (Invalidated R)) R) R) :
    After (transmit fuel apdu capacity) w Q R := by
  refine (Program.after_bind _).2 (after_fields.2 ?_)
  refine (Program.after_bind _).2 (after_invalidating (after_checked (after_call fun answer => ?_)))
  obtain ⟨result, later⟩ := answer
  cases result with
  | error e => exact habsent (.error e, later) e
  | ok present =>
    cases present with
    | false => exact (Program.after_bind _).2 (after_update.2 (habsent (.ok false, later) _))
    | true =>
      refine (Program.after_bind _).2 (after_fields.2 ?_)
      refine (Program.after_bind _).2 ((hpresent later).mono (fun _ w₁ h => ?_) fun _ _ h => h)
      refine (Program.after_bind _).2 (h.mono (fun deadline w₂ h => ?_) fun _ _ h => h)
      exact after_invalidating h

section
variable {p : CardParameters} {limit start fuel : Nat} {first : Timed (Line Linked)}
  {w w' : World CardSession}
  {l l' : Line Linked} {P : Line Linked → Prop}

/-- Calls that write only frames that fit the card. -/
abbrev Fitting (p : CardParameters) : World CardSession → World CardSession → Prop :=
  Calls (Fits p.useCrc p.ifsc)

/-- A fact about the calls, where there are surroundings at all. -/
theorem Calls.holds {F F' : List UInt8 → Prop} {w₀ : World CardSession} (h : Calls F w w')
    (hw : Holds (LinkStep p limit) start first w P) (hcalls : ∀ l, P l → Calls F' w₀ w') :
    Holds (LinkStep p limit) start first w' fun _ => Calls F' w₀ w' := by
  obtain ⟨new, hlog, hclock, -⟩ := h
  exact (hw.before hlog hclock).mono fun _ ⟨l, hl⟩ => hcalls l hl

theorem Calls.impossible {F : List UInt8 → Prop} (h : Calls F w w')
    (hw : Holds (LinkStep p limit) start first w fun _ => False) :
    Holds (LinkStep p limit) start first w' P := by
  obtain ⟨new, hlog, hclock, -⟩ := h
  exact (hw.before hlog hclock).mono fun _ ⟨_, hfalse⟩ => hfalse.elim

/-- **The frames of an initialization fit the card.** -/
theorem initializeSession_fits {executed : List (List UInt8 × List UInt8)}
    (hw : Holds (LinkStep p limit) start first w (Executed executed)) :
    After (initializeSession fuel) w
      (fun _ w' => Holds (LinkStep p limit) start first w' fun _ => Fitting p w w')
      fun _ w' => Holds (LinkStep p limit) start first w' fun _ => Fitting p w w' := by
  unfold initializeSession
  refine (Program.after_bind _).2 (after_update.2 ?_)
  have hreset := (@resetAndReadCardAtr_spec _ _ _ fuel _ _ _
    (show Holds (LinkStep p limit) start first (w.withSession {}) (Executed executed) from hw)).and
    (Quiet.resetAndReadCardAtr fuel (w.withSession {}))
  have hquiet {w' : World CardSession} (h : Silent (w.withSession {}) w') :
      Fitting p w w' := h.sent.calls
  refine (Program.after_bind _).2 (hreset.mono (fun atr w₁ ⟨hread, hsilent⟩ => ?_)
    fun _ _ ⟨_, hsilent⟩ =>
    (hquiet hsilent).holds hw fun _ _ => hquiet hsilent)
  refine (Program.after_bind _).2 (after_update.2 ?_)
  dsimp only
  rw [hsilent.session]
  generalize hw₂ : w₁.withSession _ = w₂
  have hcrc : w₂.session.useCrc = (sessionOf atr).useCrc := hw₂ ▸ rfl
  replace hread : Holds (LinkStep p limit) start first w₂ fun l =>
    parseCardAtr (ByteView.of p.atr) = .ok atr ∧ Idle (Fresh executed) l := hw₂ ▸ hread
  have hbefore : Fitting p w w₁ := hquiet hsilent
  replace hbefore : Fitting p w w₂ := hw₂ ▸ hbefore
  -- an ATR that is not the card's cannot have been read
  have hsent {w₃ : World CardSession}
      (h : Sent (InitializationFrame w₂.session.useCrc (ifsdFor atr))
        (w₂.withSession w₂.session.started) w₃) :
      Holds (LinkStep p limit) start first w₃ fun _ => Fitting p w w₃ := by
    have hcalls : Calls (InitializationFrame w₂.session.useCrc (ifsdFor atr)) w₂ w₃ := h.calls
    refine hcalls.holds hread fun l hl => hbefore.trans (hcalls.mono fun frame hframe => ?_)
    have hpos : 1 ≤ p.ifsc.toNat := by
      rw [(p.announced atr hl.1).2.1]
      exact ifsc_pos hl.1
    rw [hcrc, (speaks_of_parsed hl.1).useCrc] at hframe
    rcases hframe with hframe | hframe
    · exact hframe.fits (Nat.zero_le _) hpos
    · exact hframe.fits hpos hpos
  refine (Program.after_bind _).2 (after_attempt ((initializeT1_calls fuel _ _ w₂).mono
    (fun _ w₃ h => ?_) fun stop w₃ h => ?_))
  · have hfits := hsent h.1
    exact hfits
  · have hfits := hsent h
    cases stop with
    | undefined => exact hfits
    | failure e => exact hfits

/-- What holds of the card between transmissions, when the session is initialized. -/
def Ready (p : CardParameters) (session : CardSession) (l : Line Linked) : Prop :=
  session.initialized = true → (Speaks p session ∧ 1 ≤ p.ifsc.toNat) ∧
    Idle (Taking l.other.card.core.executed session.sendSequence session.receiveSequence []) l

/-- A failure, which leaves the session invalidated. -/
def Failed (p : CardParameters) (limit start : Nat) (first : Timed (Line Linked))
    (w : World CardSession) (stop : Stop) (w' : World CardSession) : Prop :=
  (stop ≠ .undefined → w'.session = {}) ∧ Holds (LinkStep p limit) start first w' fun _ =>
    Fitting p w w'

/-- A command that has succeeded. -/
def Succeeded (p : CardParameters) (limit start : Nat) (first : Timed (Line Linked))
    (executed : List (List UInt8 × List UInt8)) (apdu : ByteView) (w : World CardSession)
    (response : List UInt8) (w' : World CardSession) : Prop :=
  Holds (LinkStep p limit) start first w' fun l => (Ready p w'.session l ∧
    l.other.card.core.executed = executed ++ [(apdu.bytes, response)]) ∧ Fitting p w w'

/-- A transmission of an initialized session. -/
theorem transmitReady_spec {executed : List (List UInt8 × List UInt8)} {apdu : ByteView}
    {capacity : Option Nat} (hlimit : limit ≤ kCardUartFrameMaxLength)
    (hw : Holds (LinkStep p limit) start first w' fun l =>
      ((Speaks p w'.session ∧ 1 ≤ p.ifsc.toNat) ∧
        Idle (Taking executed w'.session.sendSequence w'.session.receiveSequence []) l) ∧
        Fitting p w w') :
    After (deadlineAfter kOperationTimeoutMs) w'
      (fun deadline w₂ => After (transmitInitialized fuel apdu capacity deadline) w₂
        (Succeeded p limit start first executed apdu w)
        (Invalidated (Failed p limit start first w)))
      (Failed p limit start first w) := by
  refine (link_laws p limit).after_deadlineAfter hw fun w₂ hsilent hw₂ => ?_
  generalize hdeadline : deadlineFrom (min w₂.time timeMax) kOperationTimeoutMs = deadline
  have hmax : deadline ≤ timeMax := hdeadline ▸ deadlineFrom_le (by decide)
  have hbefore {w₃ : World CardSession} (h : Fitting p w₂ w₃) (hfits : Fitting p w w') :
      Fitting p w w₃ :=
    hfits.trans (hsilent.sent.calls.trans h)
  rw [← hsilent.session] at hw₂
  have hinvalidated {stop : Stop} {w₃ : World CardSession}
      (h : Holds (LinkStep p limit) start first w₃ fun _ => Fitting p w w₃) :
      Invalidated (Failed p limit start first w) stop w₃ := by
    cases stop with
    | failure e => exact ⟨fun _ => rfl, h⟩
    | undefined => exact ⟨fun h => absurd rfl h, h⟩
  by_cases hspeaks : Speaks p w₂.session ∧ 1 ≤ p.ifsc.toNat
  · have hemits := @Emitting.transmitInitialized
      (Fits p.useCrc p.ifsc) p.useCrc p.ifsc fuel deadline
      (fun h hdata => h.fits hdata hspeaks.2) apdu capacity w₂ hspeaks.1.useCrc hspeaks.1.cardIfsc
    have hspec := @transmitInitialized_spec _ _ _ fuel _ _ _ _ apdu capacity hlimit hmax hspeaks.1
      (hw₂.mono fun l hl => hl.1.2)
    refine (hemits.and hspec).mono (fun response w₃ ⟨hcalls, hspeaks₃, _, htaking⟩ => ?_)
      fun stop w₃ ⟨hcalls, _⟩ => ?_
    · have hfits := hcalls.calls.holds hw₂ fun l hl => hbefore hcalls.calls hl.2
      refine (htaking.and hfits).mono fun l ⟨hl, hfits⟩ =>
        ⟨⟨fun _ => ⟨⟨hspeaks₃, hspeaks.2⟩, ?_⟩, hl.2.executed⟩, hfits⟩
      rw [hl.2.executed]
      exact hl
    · exact hinvalidated (hcalls.calls.holds hw₂ fun l hl => hbefore hcalls.calls hl.2)
  · have hnone : Holds (LinkStep p limit) start first w₂ fun _ => False :=
      hw₂.mono fun l hl => hspeaks hl.1.1
    have hemits := @Emitting.transmitInitialized
      (fun _ => True) w₂.session.useCrc w₂.session.cardIfsc fuel deadline
      (fun _ _ => trivial) apdu capacity w₂ rfl rfl
    refine hemits.mono (fun response w₃ hcalls => ?_) fun stop w₃ hcalls => ?_
    · exact hcalls.calls.impossible hnone
    · exact hinvalidated (hcalls.calls.impossible hnone)

/-- **A transmission.** -/
theorem transmit_spec {apdu : ByteView} {capacity : Option Nat}
    (hlimit : limit ≤ kCardUartFrameMaxLength) (hready : Ready p w.session l) :
    After (transmit fuel apdu capacity) w
      (Succeeded p limit w.hardware.log.length ⟨l, w.time⟩ l.other.card.core.executed apdu w)
      (Failed p limit w.hardware.log.length ⟨l, w.time⟩ w) := by
  have hbegin := Holds.begin (LinkStep p limit) w l
  have hdetected (answer : Ask.detectCard.Answer) :
      Holds (LinkStep p limit) w.hardware.log.length ⟨l, w.time⟩
      (w.answered .detectCard answer) (· = l) := by
    refine (hbegin.answered .detectCard answer).mono fun l' ⟨_, hl, hstep⟩ => ?_
    cases hstep with
    | detect => exact hl
  have hfits (answer : Ask.detectCard.Answer) : Fitting p w (w.answered .detectCard answer) :=
    (Silent.one w .detectCard answer nofun).sent.calls
  refine after_transmit (fun answer e =>
    ⟨fun _ => rfl, (hdetected answer).mono fun _ _ => hfits answer⟩)
    fun later => ?_
  have hline := hdetected (.ok true, later)
  have hcalls := hfits (.ok true, later)
  have hsession : (w.answered .detectCard (.ok true, later)).session = w.session := rfl
  generalize w.answered .detectCard (.ok true, later) = w₁ at hline hcalls hsession ⊢
  split
  · have hexecuted : Holds (LinkStep p limit) w.hardware.log.length ⟨l, w.time⟩ w₁
        (Executed l.other.card.core.executed) := hline.mono fun l' hl => hl ▸ rfl
    refine ((@initializeSession_spec _ _ _ fuel _ _ _ hlimit hexecuted).and
      ((@initializeSession_fits _ _ _ fuel _ _ _ hexecuted).and
        (initializeSession_calls fuel w₁))).mono
      (fun _ w₂ ⟨⟨parsed, hsession₂, hidle⟩, hfits₂, _⟩ => ?_)
      fun stop w₂ ⟨_, hfits₂, hinvalid⟩ => ?_
    · refine transmitReady_spec hlimit ((hidle.and hfits₂).mono fun l' ⟨hl, hfits₂⟩ =>
        ⟨⟨⟨?_, ?_⟩, ?_⟩, hcalls.trans hfits₂⟩)
      · rw [hsession₂]
        exact speaks_of_parsed hl.1
      · rw [(p.announced parsed hl.1).2.1]
        exact ifsc_pos hl.1
      · rw [hsession₂]
        exact hl.2
    · exact ⟨hinvalid, hfits₂.mono fun _ hl => hcalls.trans hl⟩
  · next hinitialized =>
    have hidle := hready (Bool.of_not_eq_false hinitialized)
    rw [← hsession] at hidle
    exact transmitReady_spec hlimit (hline.mono fun l' hl => ⟨hl ▸ hidle, hcalls⟩)

end

/-! ## Resets -/

/-- Calls that reset the card and write nothing. -/
def Rebooted (w w' : World CardSession) : Prop :=
  ∃ new, w'.hardware.log = w.hardware.log ++ new ∧
    (∀ entry ∈ new, ∀ frame, entry.1 ≠ .writeData frame) ∧
    ∃ later, ⟨.resetCard, (.ok (), later)⟩ ∈ new

/-- Nothing is written before a reset. -/
def ResetFirst (w w' : World CardSession) : Prop :=
  ∃ new, w'.hardware.log = w.hardware.log ++ new ∧ ∀ before frame answer after,
    new = before ++ ⟨.writeData frame, answer⟩ :: after →
    ∃ later, ⟨.resetCard, (.ok (), later)⟩ ∈ before

section
variable {fuel : Nat} {w w' w'' : World CardSession}

theorem Rebooted.silent (h : Rebooted w w') (h' : Silent w' w'') : Rebooted w w'' := by
  obtain ⟨new, hlog, hquiet, later, hmem⟩ := h
  obtain ⟨new', hsince, hquiet'⟩ := h'
  refine ⟨new ++ new', by rw [hsince.log, hlog, List.append_assoc], fun entry hentry => ?_, later,
    List.mem_append_left _ hmem⟩
  exact (List.mem_append.1 hentry).elim (hquiet entry) (hquiet' entry)

theorem Silent.rebooted (h : Silent w w') (h' : Rebooted w' w'') : Rebooted w w'' := by
  obtain ⟨new, hsince, hquiet⟩ := h
  obtain ⟨new', hlog, hquiet', later, hmem⟩ := h'
  refine ⟨new ++ new', by rw [hlog, hsince.log, List.append_assoc], fun entry hentry => ?_, later,
    List.mem_append_right _ hmem⟩
  exact (List.mem_append.1 hentry).elim (hquiet entry) (hquiet' entry)

theorem Silent.resetFirst (h : Silent w w') : ResetFirst w w' := by
  obtain ⟨new, hsince, hquiet⟩ := h
  refine ⟨new, hsince.log, fun before frame answer after hnew => ?_⟩
  exact absurd rfl (hquiet ⟨.writeData frame, answer⟩ (by rw [hnew]; simp) frame)

theorem Silent.before (h : Silent w w') (h' : ResetFirst w' w'') : ResetFirst w w'' := by
  obtain ⟨new, hsince, hquiet⟩ := h
  obtain ⟨new', hlog, hreset⟩ := h'
  refine ⟨new ++ new', by rw [hlog, hsince.log, List.append_assoc],
    fun before frame answer after hnew => ?_⟩
  rcases List.append_eq_append_iff.1 hnew with ⟨more, rfl, hrest⟩ | ⟨more, hfirst, hrest⟩
  · obtain ⟨later, hmem⟩ := hreset more frame answer after hrest
    exact ⟨later, List.mem_append_right _ hmem⟩
  · cases more with
    | nil =>
      obtain ⟨later, hmem⟩ := hreset [] frame answer after hrest.symm
      cases hmem
    | cons entry more =>
      rw [List.cons_append, List.cons.injEq] at hrest
      refine absurd rfl (hquiet ⟨.writeData frame, answer⟩ ?_ frame)
      rw [hfirst, hrest.1]
      simp

/-- A reset, before anything is written. -/
theorem Rebooted.resetFirst (h : Rebooted w w') {F : List UInt8 → Prop} (h' : Calls F w' w'') :
    ResetFirst w w'' := by
  obtain ⟨new, hlog, hquiet, later, hmem⟩ := h
  obtain ⟨new', hlog', -, -⟩ := h'
  refine ⟨new ++ new', by rw [hlog', hlog, List.append_assoc],
    fun before frame answer after hnew => ⟨later, ?_⟩⟩
  rcases List.append_eq_append_iff.1 hnew with ⟨more, hbefore, -⟩ | ⟨more, hfirst, hrest⟩
  · rw [hbefore]
    exact List.mem_append_left _ hmem
  · -- the reset is in what is written first, or not later
    cases more with
    | nil =>
      rw [List.append_nil] at hfirst
      exact hfirst ▸ hmem
    | cons entry more =>
      rw [List.cons_append, List.cons.injEq] at hrest
      refine absurd rfl (hquiet ⟨.writeData frame, answer⟩ ?_ frame)
      rw [hfirst, hrest.1]
      simp

theorem readAtrAttempts_reboots (left attempts : Nat) :
    After (readAtrAttempts fuel left attempts) w (fun _ => Rebooted w) fun _ => Silent w := by
  induction left generalizing attempts w with
  | zero => exact .refl w
  | succ left ih =>
    refine (Program.after_bind _).2 (after_checked (after_call fun answer => ?_))
    obtain ⟨result, later⟩ := answer
    have hsilent : Silent w (w.answered .resetCard (result, later)) := .one w _ _ nofun
    cases result with
    | error e => exact hsilent
    | ok _ =>
      have hreset : Rebooted w (w.answered .resetCard (.ok (), later)) :=
        ⟨[⟨.resetCard, (.ok (), later)⟩], rfl, by simp, later, List.mem_singleton_self _⟩
      dsimp only
      generalize w.answered .resetCard (.ok (), later) = w₁ at hsilent hreset ⊢
      have honce : Quiet (attempt (readAtrOnce fuel) : Session (Result CardAtr)) :=
        .attempt ((Quiet.deadlineAfter _).bind fun deadline => .readAtrFrom fuel deadline fuel [])
      refine (Program.after_bind _).2 ((honce w₁).mono (fun result w₂ hquiet => ?_) fun _ _ =>
        hsilent.trans)
      cases result with
      | ok atr =>
        have hbaud : Quiet (do
            checked (call (.setBaudRate atr.baudRate))
            return atr : Session CardAtr) :=
              (Quiet.call (q := .setBaudRate _) nofun).checked.bind fun _ => .pure _
        exact (hbaud w₂).mono (fun _ _ h => hreset.silent (hquiet.trans h)) fun _ _ h =>
          hsilent.trans (hquiet.trans h)
      | error e =>
        refine Program.after_ite (hsilent.trans hquiet)
          ((ih (attempts + 1)).mono (fun _ _ h => ?_) fun _ _ h => ?_)
        · exact (hsilent.trans hquiet).rebooted h
        · exact (hsilent.trans hquiet).trans h

/-- **An initialization resets the card first.** -/
theorem initializeSession_reboots :
    After (initializeSession fuel) w (fun _ w' => ∃ w₁, Rebooted w w₁ ∧ Calls (fun _ => True) w₁ w')
      fun _ w' => ResetFirst w w' := by
  unfold initializeSession
  refine (Program.after_bind _).2 (after_update.2 ?_)
  have hread : After (resetAndReadCardAtr fuel) (w.withSession {})
      (fun _ => Rebooted (w.withSession {}))
      fun _ => Silent (w.withSession {}) := by
    refine (Program.after_bind _).2 (after_checked (after_call fun answer => ?_))
    obtain ⟨result, later⟩ := answer
    have hsilent : Silent (w.withSession {})
        ((w.withSession {}).answered .detectCard (result, later)) :=
      .one _ _ _ nofun
    cases result with
    | error e => exact hsilent
    | ok present =>
      exact Program.after_ite hsilent
        ((readAtrAttempts_reboots 2 0).mono (fun _ _ => hsilent.rebooted)
        fun _ _ => hsilent.trans)
  refine (Program.after_bind _).2 (hread.mono (fun atr w₁ hrebooted => ?_)
    fun _ _ h => h.resetFirst)
  refine (Program.after_bind _).2 (after_update.2 ?_)
  dsimp only
  generalize hw₂ : w₁.withSession _ = w₂
  have hrebooted₂ : Rebooted w w₂ := by
    rw [← hw₂]
    exact hrebooted
  have hafter {w₃ : World CardSession} {F : List UInt8 → Prop}
      (h : Sent F (w₂.withSession w₂.session.started) w₃) : Calls (fun _ => True) w₂ w₃ :=
    (h.calls.mono fun _ _ => trivial : Calls (fun _ => True) (w₂.withSession w₂.session.started) w₃)
  refine (Program.after_bind _).2 (after_attempt ((initializeT1_calls fuel _ _ w₂).mono
    (fun _ w₃ h => ⟨w₂, hrebooted₂, ?_⟩) fun stop w₃ h => ?_))
  · have hcalls := hafter h.1
    exact hcalls
  · have hreset := hrebooted₂.resetFirst (hafter h)
    cases stop with
    | undefined => exact hreset
    | failure e => exact hreset

/-- **A session that is not initialized resets the card first.** -/
theorem transmit_resetFirst {apdu : ByteView} {capacity : Option Nat}
    (h : w.session.initialized = false) :
    After (transmit fuel apdu capacity) w (fun _ => ResetFirst w) fun _ => ResetFirst w := by
  have hsilent (answer : Ask.detectCard.Answer) : Silent w (w.answered .detectCard answer) :=
    .one w _ _ nofun
  refine after_transmit (fun answer e => (hsilent answer).resetFirst) fun later => ?_
  rw [if_pos h]
  have hdetected := hsilent (.ok true, later)
  generalize w.answered .detectCard (.ok true, later) = w₁ at hdetected ⊢
  refine initializeSession_reboots.mono (fun _ w₂ ⟨w₃, hrebooted, hcalls⟩ => ?_)
    fun _ w₂ hreset => ?_
  · have hreset := hdetected.rebooted hrebooted
    refine (Quiet.deadlineAfter _ w₂).mono (fun deadline w₄ hquiet => ?_) fun _ _ hquiet =>
      hreset.resetFirst (hcalls.trans hquiet.sent.calls)
    have hemits := @Emitting.transmitInitialized
      (fun _ => True) w₄.session.useCrc w₄.session.cardIfsc fuel deadline
      (fun _ _ => trivial) apdu capacity w₄ rfl rfl
    have hall {w₅ : World CardSession} (h : Calls (fun _ => True) w₄ w₅) : ResetFirst w w₅ :=
      hreset.resetFirst (hcalls.trans (hquiet.sent.calls.trans h))
    refine hemits.mono (fun _ _ h => hall h.calls) fun stop w₅ h => ?_
    cases stop with
    | failure e => exact hall h.calls
    | undefined => exact hall h.calls
  · exact hdetected.before hreset

end

/-! ## Runs -/

/-- The calls between two worlds have taken the link from a state to another one. -/
def Linking (p : CardParameters) (limit : Nat) (w : World CardSession) (l : Line Linked)
    (w' : World CardSession) (l' : Line Linked) : Prop :=
  ∃ new, w'.hardware.log = w.hardware.log ++ new ∧
    Plays (timed (LinkStep p limit)) ⟨l, w.time⟩ new ⟨l', w'.time⟩

/-- A transmission over the link. -/
structure Transmission (p : CardParameters) (limit fuel : Nat) (apdu : ByteView)
    (capacity : Option Nat) (w : World CardSession) (l : Line Linked)
    (result : Except Stop (List UInt8)) (w' : World CardSession) (l' : Line Linked) : Prop where
  exec : (transmit fuel apdu capacity).exec w = (result, w')
  defined : result ≠ .error .undefined
  linking : Linking p limit w l w' l'

/-- **The sessions with a card**, from a new one on whatever the card and the link have been in. -/
inductive Served (p : CardParameters) (limit : Nat) : World CardSession → Line Linked → Prop
  | fresh {w : World CardSession} {l : Line Linked} : w.session = {} → Served p limit w l
  | initialized {w w' : World CardSession} {l l' : Line Linked} {fuel : Nat}
      {result : Except Stop Unit} :
      Served p limit w l → (initializeSession fuel).exec w = (result, w') →
      result ≠ .error .undefined →
      Linking p limit w l w' l' → Served p limit w' l'
  | transmitted {w w' : World CardSession} {l l' : Line Linked} {fuel : Nat} {apdu : ByteView}
      {capacity : Option Nat} {result : Except Stop (List UInt8)} :
      Served p limit w l → Transmission p limit fuel apdu capacity w l result w' l' →
      Served p limit w' l'
  | invalidated {w : World CardSession} {l : Line Linked} : Served p limit w l →
      Served p limit (w.withSession {}) l

/-- A transmission that has done what it should. -/
structure ExactlyOnce (p : CardParameters) (apdu : ByteView)
    (w : World CardSession) (l : Line Linked) (result : Except Stop (List UInt8))
    (w' : World CardSession) (l' : Line Linked) : Prop where
  executed : ∀ response, result = .ok response →
    l'.other.card.core.executed = l.other.card.core.executed ++ [(apdu.bytes, response)]
  frames : Fitting p w w'
  invalidated : ∀ stop, result = .error stop → w'.session = {} ∧
    ∀ fuel apdu capacity, ResetFirst w' ((transmit fuel apdu capacity).exec w').2

section
variable {p : CardParameters} {limit fuel : Nat} {w w' : World CardSession} {l l' : Line Linked}

theorem Linking.fact {P : Line Linked → Prop} (h : Linking p limit w l w' l')
    (hw : Holds (LinkStep p limit) w.hardware.log.length ⟨l, w.time⟩ w' P) : P l' := by
  obtain ⟨new, hlog, hplays⟩ := h
  exact hw.plays hlog hplays

theorem ready_of_uninitialized (h : w.session = {}) : Ready p w.session l := by
  intro hinitialized
  rw [h] at hinitialized
  cases hinitialized

/-- What holds between the calls of a session. -/
theorem Served.ready (hlimit : limit ≤ kCardUartFrameMaxLength) (h : Served p limit w l) :
    Ready p w.session l := by
  induction h with
  | fresh hsession => exact ready_of_uninitialized hsession
  | @initialized w w' l l' fuel result _ hexec hdefined hlinking =>
    have hexecuted : Holds (LinkStep p limit) w.hardware.log.length ⟨l, w.time⟩ w
        (Executed l.other.card.core.executed) := (Holds.begin _ w l).mono fun _ hl => hl ▸ rfl
    cases result with
    | ok _ =>
      obtain ⟨parsed, hsession, hidle⟩ := (initializeSession_spec hlimit hexecuted).ok hexec
      obtain ⟨hparsed, hidle⟩ := hlinking.fact hidle
      refine fun _ => ⟨⟨hsession ▸ speaks_of_parsed hparsed, ?_⟩, ?_⟩
      · rw [(p.announced parsed hparsed).2.1]
        exact ifsc_pos hparsed
      · rw [hsession, hidle.2.executed]
        exact hidle
    | error stop =>
      refine ready_of_uninitialized ((initializeSession_calls fuel w).error hexec ?_)
      rintro rfl
      exact hdefined rfl
  | @transmitted w w' l l' fuel apdu capacity result _ htransmission ih =>
    cases result with
    | ok response =>
      exact (htransmission.linking.fact ((transmit_spec hlimit ih).ok htransmission.exec)).1.1
    | error stop =>
      refine ready_of_uninitialized (((transmit_spec hlimit ih).error htransmission.exec).1 ?_)
      rintro rfl
      exact htransmission.defined rfl
  | invalidated => exact ready_of_uninitialized rfl

/-- **A command that succeeds has been executed once**, in every session over a link on which no
answer that arrives is longer than a read. -/
theorem transmit_once {apdu : ByteView} {capacity : Option Nat} {result : Except Stop (List UInt8)}
    (hlimit : limit ≤ 255) (hserved : Served p limit w l)
    (h : Transmission p limit fuel apdu capacity w l result w' l') :
    ExactlyOnce p apdu w l result w' l' := by
  have hspec := @transmit_spec _ _ fuel _ _ apdu capacity hlimit (hserved.ready hlimit)
  cases result with
  | ok response =>
    obtain ⟨⟨_, hexecuted⟩, hframes⟩ := h.linking.fact (hspec.ok h.exec)
    refine ⟨fun response' hresponse => ?_, hframes, nofun⟩
    cases hresponse
    exact hexecuted
  | error stop =>
    obtain ⟨hsession, hframes⟩ := hspec.error h.exec
    refine ⟨nofun, h.linking.fact hframes, fun stop' hstop => ?_⟩
    cases hstop
    have hinvalid : w'.session = {} := hsession (by rintro rfl; exact h.defined rfl)
    refine ⟨hinvalid, fun fuel apdu capacity => (transmit_resetFirst ?_).last⟩
    rw [hinvalid]

end

/-! ## A card at 38400 baud -/

/-- What that card has announced. -/
def acasParameters : CardParameters where
  atr := acasBytes
  short := by decide
  useCrc := false
  ifsc := 0xfe
  blockTimeoutMs := 1600
  announced := by
    have hparsed : parseCardAtr (ByteView.of acasBytes) = .ok acasAtr := by decide +kernel
    intro parsed h
    cases hparsed.symm.trans h
    exact ⟨rfl, rfl, rfl⟩

/-- A new session with that card, which reads some bytes when it has been initialized. -/
def acasLinked (reads : List (List UInt8)) : World CardSession :=
  ⟨{}, scripted (acasBytes :: frameOf false (ifsAnswer 254) :: reads), 0⟩

/-- Calls of the clock. -/
def clockLog (count : Nat) : Log := List.replicate count ⟨.monotonicMs, ((), 0)⟩

/-- The calls of a reset. -/
def resetLog : Log :=
  [⟨.detectCard, (.ok true, 0)⟩, ⟨.detectCard, (.ok true, 0)⟩,
    ⟨.resetCard, (.ok (), 0)⟩] ++ clockLog 3 ++
    [⟨.dataReady, (.ok true, 0)⟩, ⟨.readData 33, (.ok acasBytes, 0)⟩,
      ⟨.setBaudRate .baud38400, (.ok (), 0)⟩]

/-- The calls of an exchange. -/
def exchangeLog (frame read : List UInt8) : Log :=
  ⟨.writeData frame, (.ok (), 0)⟩ :: clockLog 3 ++
    [⟨.dataReady, (.ok true, 0)⟩, ⟨.readData 255, (.ok read, 0)⟩]

/-- The link when some bytes are on it. -/
def linked (card : SmartCard) (due : Nat) (queue : List UInt8) : Timed (Line Linked) :=
  ⟨⟨⟨card, due⟩, queue⟩, 0⟩

section
variable {limit due : Nat} {card card' : SmartCard} {queue bytes frame read rest : List UInt8}

theorem plays_clock {l : Line Linked} (h : l.queue ≠ [] → 0 < l.other.due) (count : Nat) :
    Plays (timed (LinkStep acasParameters limit)) ⟨l, 0⟩ (clockLog count) ⟨l, 0⟩ := by
  induction count with
  | zero => exact .nil _
  | succ count ih => exact .cons ⟨rfl, .clock l _ h⟩ ih

theorem plays_reset : Plays (timed (LinkStep acasParameters limit)) (linked {} 0 []) resetLog
    (linked {} 1000 []) := by
  refine Lib.plays_append.2 ⟨linked {} 1000 acasBytes,
    Lib.plays_append.2 ⟨linked {} 1000 acasBytes, ?_, ?_⟩, ?_⟩
  · refine @Plays.cons _ _ _ _ (linked {} 0 []) _ _ _ ⟨rfl, .detect _ _⟩
      (@Plays.cons _ _ _ _ (linked {} 0 []) _ _ _ ⟨rfl, .detect _ _⟩ ?_)
    exact .cons ⟨rfl, .reset _ _ acasBytes (.inl rfl)⟩ (.nil _)
  · exact plays_clock (fun _ => by decide) 3
  · refine @Plays.cons _ _ _ _ (linked {} 1000 acasBytes) _ _ _
      ⟨rfl, .ready _ _ _ fun _ => by decide⟩ ?_
    refine @Plays.cons _ _ _ _ (linked {} 1000 []) _ _ _
      ⟨rfl, .read (linked {} 1000 acasBytes).line 33 0⟩ ?_
    exact .cons ⟨rfl, .baud _ _ _⟩ (.nil _)

/-- An exchange, before which something may be left on the link. -/
theorem plays_exchange (h : Carries false limit card frame card' bytes)
    (hfactor : waitingFactor frame = 1) (hne : queue ++ bytes ≠ [])
    (hread : (queue ++ bytes).take 255 = read) (hrest : (queue ++ bytes).drop 255 = rest) :
    Plays (timed (LinkStep acasParameters limit)) (linked card due queue) (exchangeLog frame read)
      (linked card' 1600 rest) := by
  subst hread hrest
  have hwrite : LinkStep acasParameters limit 0 (linked card due queue).line
      ⟨.writeData frame, (.ok (), 0)⟩ _ :=
    .write _ frame 0 card' bytes h
  rw [hfactor] at hwrite
  refine @Plays.cons _ _ _ _ (linked card' 1600 (queue ++ bytes)) _ _ _ ⟨rfl, hwrite⟩ ?_
  refine Lib.plays_append.2 ⟨_, plays_clock (fun _ => Nat.zero_lt_succ 1599) 3, ?_⟩
  refine @Plays.cons _ _ _ _ (linked card' 1600 (queue ++ bytes)) _ _ _
    ⟨rfl, .ready _ _ _ fun _ => hne⟩ ?_
  exact .cons ⟨rfl, .read (linked card' 1600 (queue ++ bytes)).line 255 0⟩ (.nil _)

end

/-- The calls of an initialization, up to the first exchange of the command. -/
def startLog : Log :=
  resetLog ++ clockLog 2 ++ exchangeLog (frameOf false (ifsBlock 254))
    (frameOf false (ifsAnswer 254)) ++ clockLog 2

theorem plays_start {limit : Nat} (hlimit : 5 ≤ limit) :
    Plays (timed (LinkStep acasParameters limit)) (linked {} 0 []) startLog
      (linked {} 1600 []) := by
  have hcarries : Carries false limit {} (frameOf false (ifsBlock 254)) {}
      (frameOf false (ifsAnswer 254)) :=
    .delivered (by decide) (.answer .ifs) (.delivered hlimit)
  refine Lib.plays_append.2 ⟨linked {} 1600 [], Lib.plays_append.2 ⟨linked {} 1000 [],
    Lib.plays_append.2 ⟨linked {} 1000 [], plays_reset, ?_⟩, ?_⟩, ?_⟩
  · exact plays_clock (fun h => absurd rfl h) 2
  · exact @plays_exchange _ _ _ _ [] _ _ _ _ hcarries rfl (by decide) (by decide) (by decide)
  · exact plays_clock (fun h => absurd rfl h) 2

/-- The I-block of a command of one byte. -/
def commandBlock : Block := ⟨iBlock false false, [0]⟩

/-- That card when it has executed the command. -/
def acasCore (response : List UInt8) : Core := Core.responding {} [0] [response]

/-- That card executes the command. -/
theorem carries_command {limit : Nat} {response : List UInt8} (hlength : response.length ≤ 254)
    (hlimit : frameLength false ⟨iBlock false false, response⟩ ≤ limit) :
    Carries false limit {} (frameOf false commandBlock) ⟨acasCore response, none⟩
      (frameOf false ⟨iBlock false false, response⟩) := by
  refine .delivered (by decide) (.answer (.execute (by decide) (by decide) (by decide) ?_ rfl))
    (.delivered hlimit)
  intro part hpart
  rw [List.mem_singleton.1 hpart]
  exact hlength

/-- A transmission, from its outcome and its calls. -/
theorem transmission_of {p : CardParameters} {limit fuel : Nat} {apdu : ByteView}
    {capacity : Option Nat} {w : World CardSession} {l l' : Line Linked}
    {response : List UInt8} {new : Log}
    (hok : ((transmit fuel apdu capacity).exec w).1 = .ok response)
    (hlog : ((transmit fuel apdu capacity).exec w).2.hardware.log = w.hardware.log ++ new)
    (htime : ((transmit fuel apdu capacity).exec w).2.time = 0)
    (hplays : Plays (timed (LinkStep p limit)) ⟨l, w.time⟩ new ⟨l', 0⟩) :
    Transmission p limit fuel apdu capacity w l (.ok response)
      ((transmit fuel apdu capacity).exec w).2 l' where
  exec := Prod.ext hok rfl
  defined := nofun
  linking := ⟨new, hlog, htime ▸ hplays⟩

/-- That card has a short response. -/
def shortWorld : World CardSession := acasLinked [frameOf false ⟨iBlock false false, [0x90, 0x00]⟩]

theorem transmission_short : Transmission acasParameters 255 3 (ByteView.of [0])
    (some 300) shortWorld
    (linked {} 0 []).line (.ok [0x90, 0x00])
    ((transmit 3 (ByteView.of [0]) (some 300)).exec shortWorld).2
    (linked ⟨acasCore [0x90, 0x00], none⟩ 1600 []).line := by
  have hok : ((transmit 3 (ByteView.of [0]) (some 300)).exec shortWorld).1 = .ok [0x90, 0x00] := by
    decide +kernel
  have hlog : ((transmit 3 (ByteView.of [0]) (some 300)).exec shortWorld).2.hardware.log =
      startLog ++ exchangeLog (frameOf false commandBlock)
        (frameOf false ⟨iBlock false false, [0x90, 0x00]⟩) := by
    decide +kernel
  have htime : ((transmit 3 (ByteView.of [0]) (some 300)).exec shortWorld).2.time = 0 := by
    decide +kernel
  refine transmission_of hok hlog htime
    (Lib.plays_append.2 ⟨linked {} 1600 [], plays_start (by decide), ?_⟩)
  have hcarries := @carries_command 255 [0x90, 0x00] (by decide) (by decide)
  exact @plays_exchange _ _ _ _ [] _ _ _ _ hcarries rfl (by decide) (by decide) (by decide)

/-- A command that has been executed once. -/
theorem transmit_once_acas : ExactlyOnce acasParameters (ByteView.of [0]) shortWorld
    (linked {} 0 []).line
    (.ok [0x90, 0x00]) ((transmit 3 (ByteView.of [0]) (some 300)).exec shortWorld).2
    (linked ⟨acasCore [0x90, 0x00], none⟩ 1600 []).line :=
  transmit_once (by decide) (.fresh rfl) transmission_short

/-- A response as long as the announced IFSD permits. -/
def longResponse : List UInt8 := 0xfe :: List.replicate 251 0 ++ [0x00, 0x03]

/-- Its frame. -/
def longFrame : List UInt8 := frameOf false ⟨iBlock false false, longResponse⟩

/-- What is read of it, when the command is sent again. -/
def longReads : List (List UInt8) :=
  [longFrame, longFrame.drop 255 ++ frameOf false ⟨rBlock true, []⟩]

/-- That card has a long response, of which the end is taken for a frame. -/
def longLinked : World CardSession := acasLinked longReads

theorem transmission_long : Transmission acasParameters 258 3 (ByteView.of [0])
    (some 300) longLinked
    (linked {} 0 []).line (.ok [0x00, 0x90, 0x00])
    ((transmit 3 (ByteView.of [0]) (some 300)).exec longLinked).2
    (linked ⟨acasCore longResponse, none⟩ 1600 []).line := by
  have hok : ((transmit 3 (ByteView.of [0]) (some 300)).exec longLinked).1 =
      .ok [0x00, 0x90, 0x00] := by
    decide +kernel
  have hlog : ((transmit 3 (ByteView.of [0]) (some 300)).exec longLinked).2.hardware.log =
      startLog ++ exchangeLog (frameOf false commandBlock) (longFrame.take 255) ++ clockLog 1 ++
        exchangeLog (frameOf false commandBlock)
          (longFrame.drop 255 ++ frameOf false ⟨rBlock true, []⟩) := by
    decide +kernel
  have htime : ((transmit 3 (ByteView.of [0]) (some 300)).exec longLinked).2.time = 0 := by
    decide +kernel
  have hlong : Carries false 258 {} (frameOf false commandBlock)
      ⟨acasCore longResponse, none⟩ longFrame :=
    carries_command (by decide +kernel) (by decide +kernel)
  have hagain : Carries false 258 ⟨acasCore longResponse, none⟩ (frameOf false commandBlock)
      ⟨acasCore longResponse, none⟩ (frameOf false ⟨rBlock true, []⟩) :=
    .delivered (by decide) (.answer (.repeated (by decide) (by decide) ⟨by decide, by decide⟩))
      (.delivered (by decide))
  refine transmission_of hok hlog htime (Lib.plays_append.2
    ⟨linked ⟨acasCore longResponse, none⟩ 1600 (longFrame.drop 255), Lib.plays_append.2
      ⟨linked ⟨acasCore longResponse, none⟩ 1600 (longFrame.drop 255), Lib.plays_append.2
        ⟨linked {} 1600 [], plays_start (by decide), ?_⟩, ?_⟩, ?_⟩)
  · exact @plays_exchange _ _ _ _ [] _ _ _ _ hlong rfl (by decide +kernel) (by decide +kernel)
      (by decide +kernel)
  · exact plays_clock (fun _ => Nat.zero_lt_succ 1599) 1
  · exact @plays_exchange _ _ _ _ (longFrame.drop 255) _ _ _ _ hagain rfl (by decide +kernel)
      (by decide +kernel)
      (by decide +kernel)

/-- A command that succeeds with other bytes than those of its response. -/
theorem transmit_once_long : ∃ (p : CardParameters) (limit fuel : Nat) (apdu : ByteView)
    (capacity : Option Nat) (w w' : World CardSession) (l l' : Line Linked)
    (result : Except Stop (List UInt8)), Served p limit w l ∧
      Transmission p limit fuel apdu capacity w l result w' l' ∧
      ¬ExactlyOnce p apdu w l result w' l' := by
  refine ⟨_, _, _, _, _, _, _, _, _, _, .fresh rfl, transmission_long, fun h => ?_⟩
  have hexecuted := h.executed _ rfl
  exact absurd hexecuted (by decide)

end Px4.Card
