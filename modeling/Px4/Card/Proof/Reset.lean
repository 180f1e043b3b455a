import Px4.Card.Proof.Ifsd
import Px4.Card.Proof.Transmit

/-!
# A card after its reset

* `UartLaws.readAtrFrom_spec`: a read returns the ATR as a whole, or nothing.
* `readAtrAttempts_spec`: the ATR of the card that has been reset.
* `initializeSession_spec`: the card and the session when it is initialized.
-/

namespace Px4.Card

open Lib (Program Plays Surely)
open Lib.Program (After)

/-! ## The ATR -/

section
variable {S K : Type} {step : Nat → Line K → Sigma Ask.Answer → Line K → Prop}
  {due : K → Nat} {faults : Prop}
  {start : Nat} {first : Timed (Line K)} {F : K → Prop} {bytes : List UInt8}

/-- What is not yet read of an ATR: all of it, or nothing. -/
def Unread (F : K → Prop) (bytes atr : List UInt8) (l : Line K) : Prop :=
  F l.other ∧ (l.queue = [] ∨ atr = [] ∧ l.queue = bytes)

/-- **The ATR is read as a whole.** -/
theorem UartLaws.readAtrFrom_spec (laws : UartLaws step due faults)
    (hbytes : bytes.length ≤ kPx4CardAtrMaxLength) (fuel deadline rounds : Nat) {atr : List UInt8}
    {w : World S} (hw : Holds step start first w (Unread F bytes atr)) :
    After (readAtrFrom fuel deadline rounds atr) w
      (fun parsed w' => Holds step start first w' fun l =>
        F l.other ∧ l.queue = [] ∧ parseCardAtr (ByteView.of bytes) = .ok parsed)
      fun stop w' => stop ≠ .undefined → Holds step start first w' fun l => F l.other := by
  induction rounds generalizing atr w with
  | zero => exact fun h => absurd rfl h
  | succ rounds ih =>
    unfold readAtrFrom
    refine (Program.after_bind _).2 (laws.after_deadlineExpired hw
      (fun w₁ _ hexpired _ => hexpired.mono fun l hl => hl.1.1) fun w₁ _ _ hlive => ?_)
    rw [if_neg nofun]
    refine (Program.after_bind _).2 ((laws.waitDataReady_spec deadline fuel hlive).mono
      (fun _ w₂ ⟨_, hready⟩ => ?_) fun stop w₂ ⟨_, hstop⟩ hne => ?_)
    · have hwhole : Holds step start first w₂ fun l => F l.other ∧ atr = [] ∧ l.queue = bytes :=
        hready.mono fun l ⟨⟨hF, hqueue⟩, hne⟩ => ⟨hF, hqueue.resolve_left hne⟩
      split
      · exact fun _ => hwhole.mono fun l hl => hl.1
      refine (Program.after_bind _).2 (after_checked (after_call fun answer => ?_))
      obtain ⟨result, later⟩ := answer
      have hread := hwhole.answered (.readData (kPx4CardAtrMaxLength - atr.length)) (result, later)
      cases result with
      | error e =>
        refine fun _ => hread.mono fun l' ⟨l, hl, hstep⟩ => ?_
        rw [(laws.unread hstep).2]
        exact hl.1
      | ok read =>
        have hall : Holds step start first
            (w₂.answered (.readData (kPx4CardAtrMaxLength - atr.length)) (.ok read, later))
            fun l => F l.other ∧ l.queue = [] ∧ atr ++ read = bytes := by
          refine hread.mono fun l' ⟨l, ⟨hF, hatr, hqueue⟩, hstep⟩ => ?_
          obtain ⟨hbytes', rfl⟩ := laws.read hstep
          rw [hatr, List.length_nil, Nat.sub_zero, hqueue, List.take_of_length_le hbytes] at hbytes'
          refine ⟨hF, ?_, ?_⟩
          · show l.queue.drop _ = []
            rw [hatr, hqueue]
            exact List.drop_eq_nil_of_le hbytes
          · rw [hatr, hbytes']
            rfl
        have hagain : After (do
            call (.sleepMs kPollIntervalMs)
            readAtrFrom fuel deadline rounds (atr ++ read))
            (w₂.answered (.readData (kPx4CardAtrMaxLength - atr.length)) (.ok read, later))
            (fun parsed w' => Holds step start first w' fun l =>
              F l.other ∧ l.queue = [] ∧ parseCardAtr (ByteView.of bytes) = .ok parsed)
            fun stop w' => stop ≠ .undefined → Holds step start first w' fun l => F l.other :=
          (Program.after_bind _).2 (laws.after_sleep hall fun w₃ _ _ hw₃ =>
            ih (hw₃.mono fun l hl => ⟨hl.1, .inl hl.2.1⟩))
        dsimp only
        split
        · exact fun _ => hall.mono fun l hl => hl.1
        split
        · split
          · next parsed hparsed =>
            rw [Program.after_pure]
            refine hall.mono fun l hl => ⟨hl.1, hl.2.1, ?_⟩
            rw [← hl.2.2]
            exact hparsed
          · split
            · exact fun _ => hall.mono fun l hl => hl.1
            · exact hagain
        · exact hagain
    · cases hstop with
      | expired h => exact h.mono fun l hl => hl.1.1
      | failed h =>
        refine h.mono fun l' ⟨_, l, hl, hdrained⟩ => ?_
        rw [hdrained]
        exact hl.1
      | undefined => exact absurd rfl hne

end

section
variable {p : CardParameters} {limit start fuel : Nat} {first : Timed (Line Linked)}
  {executed : List (List UInt8 × List UInt8)} {w : World CardSession}

/-- A card that has been reset. -/
abbrev Fresh (executed : List (List UInt8 × List UInt8)) : Core → Prop :=
  Taking executed false false []

theorem fresh_reset (core : Core) : Fresh core.executed core.reset := ⟨nofun, rfl, rfl, rfl, rfl⟩

/-- What has been executed. -/
def Executed (executed : List (List UInt8 × List UInt8)) (l : Line Linked) : Prop :=
  l.other.card.core.executed = executed

/-- **The ATR of a card that has been reset.** -/
theorem readAtrAttempts_spec {left attempts : Nat}
    (hw : Holds (LinkStep p limit) start first w (Executed executed)) :
    After (readAtrAttempts fuel left attempts) w
      (fun parsed w' => Holds (LinkStep p limit) start first w' fun l =>
        parseCardAtr (ByteView.of p.atr) = .ok parsed ∧ Idle (Fresh executed) l)
      fun _ _ => True := by
  induction left generalizing attempts w with
  | zero => trivial
  | succ left ih =>
    refine (Program.after_bind _).2 (after_checked (after_call fun answer => ?_))
    obtain ⟨result, later⟩ := answer
    have hreset := hw.answered .resetCard (result, later)
    cases result with
    | error e => trivial
    | ok _ =>
      have hfresh : Holds (LinkStep p limit) start first (w.answered .resetCard (.ok (), later))
          (Unread (fun k => Fresh executed k.card.core) p.atr []) := by
        refine hreset.mono fun l' ⟨l, hl, hstep⟩ => ?_
        cases hstep with
        | reset _ bytes hbytes =>
          refine ⟨hl ▸ fresh_reset l.other.card.core, ?_⟩
          rcases hbytes with rfl | rfl
          · exact .inr ⟨rfl, rfl⟩
          · exact .inl rfl
      dsimp only
      generalize w.answered .resetCard (.ok (), later) = w₁ at hfresh ⊢
      have honce : After (readAtrOnce fuel) w₁
          (fun parsed w' => Holds (LinkStep p limit) start first w' fun l =>
            parseCardAtr (ByteView.of p.atr) = .ok parsed ∧ Idle (Fresh executed) l)
          fun stop w' => stop ≠ .undefined →
          Holds (LinkStep p limit) start first w' (Executed executed) := by
        refine (Program.after_bind _).2
          ((link_laws p limit).after_deadlineAfter hfresh fun w₂ _ hw₂ => ?_)
        refine ((link_laws p limit).readAtrFrom_spec p.short fuel _ fuel hw₂).mono
          (fun parsed w₃ h => h.mono fun l hl => ⟨hl.2.2, hl.2.1, hl.1⟩) fun stop w₃ h hne => ?_
        exact (h hne).mono fun l hl => hl.executed
      refine (Program.after_bind _).2
        (after_attempt (honce.mono (fun parsed w₂ h => ?_) fun stop w₂ h => ?_))
      · refine (Program.after_bind _).2 (after_checked (after_call fun answer => ?_))
        obtain ⟨result, later⟩ := answer
        have hbaud := h.answered (.setBaudRate parsed.baudRate) (result, later)
        cases result with
        | error e => trivial
        | ok _ =>
          dsimp only
          rw [Program.after_pure]
          refine hbaud.mono fun l' ⟨l, hl, hstep⟩ => ?_
          cases hstep with
          | baud => exact hl
      · cases stop with
        | undefined => trivial
        | failure e => exact Program.after_ite trivial (ih (h nofun))

theorem resetAndReadCardAtr_spec (hw : Holds (LinkStep p limit) start first w (Executed executed)) :
    After (resetAndReadCardAtr fuel) w
      (fun parsed w' => Holds (LinkStep p limit) start first w' fun l =>
        parseCardAtr (ByteView.of p.atr) = .ok parsed ∧ Idle (Fresh executed) l)
      fun _ _ => True := by
  refine (Program.after_bind _).2 (after_checked (after_call fun answer => ?_))
  obtain ⟨result, later⟩ := answer
  have hdetect := hw.answered .detectCard (result, later)
  cases result with
  | error e => trivial
  | ok present =>
    refine Program.after_ite trivial
      (readAtrAttempts_spec (hdetect.mono fun l' ⟨l, hl, hstep⟩ => ?_))
    cases hstep with
    | detect => exact hl

/-! ## Initialization -/

/-- An S-block that does not reset a card leaves it as it is. -/
theorem exchanges_fresh {block : Block} (hi : isI block.pcb ≠ true) (hr : isR block.pcb ≠ true) :
    Exchanges block (Fresh executed) fun _ _ => True where
  reacts := by
    intro core answer core' hcore hreacts
    refine ⟨?_, trivial⟩
    cases hreacts with
    | repeated h => exact absurd h hi
    | part h => exact absurd h hi
    | execute h => exact absurd h hi
    | requested h => exact absurd h hr
    | unrequested h => exact absurd h hr
    | resynchronize => exact hcore.executed ▸ fresh_reset core
    | ifs => exact hcore
  refused := fun _ _ => trivial

/-- An exchange of an S-block. -/
theorem exchangeFresh_spec {pcb : UInt8} {data : ByteView} {deadline maxRetries : Nat}
    (hlimit : limit ≤ kCardUartFrameMaxLength) (hdeadline : deadline ≤ timeMax)
    (hi : isI pcb ≠ true) (hr : isR pcb ≠ true)
    (hwtx : pcb ≠ kT1SBlock ||| kT1SResponse ||| kT1SWtx) (hspeaks : Speaks p w.session)
    (hw : Holds (LinkStep p limit) start first w (Settled (Fresh executed) deadline w.time)) :
    After (exchangeBlock fuel pcb data deadline maxRetries) w
      (fun _ w' => w'.session = w.session ∧ Holds (LinkStep p limit) start first w'
        (Idle (Fresh executed)))
      fun stop w' => w'.session = w.session ∧ Holds (LinkStep p limit) start first w'
        (StopHolds (Settled (Fresh executed) deadline w'.time) True stop) :=
  (exchangeBlock_spec (exchanges_fresh hi hr)
    (fun _ h => h.kept) hlimit hwtx hdeadline hspeaks.useCrc
    hspeaks.blockTimeoutMs hw).mono
    (fun _ _ ⟨hsession, h⟩ => ⟨hsession, h.mono fun _ hl => ⟨hl.queue, hl.core⟩⟩) fun _ _ h => h

theorem resynchronizeCard_spec {deadline maxRetries : Nat}
    (hlimit : limit ≤ kCardUartFrameMaxLength) (hdeadline : deadline ≤ timeMax)
    (hspeaks : Speaks p w.session)
    (hw : Holds (LinkStep p limit) start first w (Settled (Fresh executed) deadline w.time)) :
    After (resynchronizeCard fuel deadline maxRetries) w
      (fun _ w' => w'.session = w.session ∧ Holds (LinkStep p limit) start first w'
        (Idle (Fresh executed)))
      fun _ _ => True := by
  refine (Program.after_bind _).2
    ((exchangeFresh_spec hlimit hdeadline (by decide) (by decide) (by decide)
    hspeaks hw).mono (fun response w' h => ?_) fun _ _ _ => trivial)
  exact Program.after_ite trivial h

theorem announceIfsd_spec {deadline maxRetries : Nat} {ifsd : UInt8}
    (hlimit : limit ≤ kCardUartFrameMaxLength) (hdeadline : deadline ≤ timeMax)
    (hspeaks : Speaks p w.session)
    (hw : Holds (LinkStep p limit) start first w (Settled (Fresh executed) deadline w.time)) :
    After (announceIfsd fuel deadline maxRetries ifsd) w
      (fun _ w' => w'.session = w.session ∧ Holds (LinkStep p limit) start first w'
        (Idle (Fresh executed)))
      fun stop w' => w'.session = w.session ∧ Holds (LinkStep p limit) start first w'
        (StopHolds (Settled (Fresh executed) deadline w'.time) True stop) :=
  exchangeFresh_spec hlimit hdeadline (by decide) (by decide) (by decide) hspeaks hw

/-- A card that is not resynchronized, or again, before it is told the IFSD. -/
theorem announcedOrRetried_spec {deadline : Nat} {resynchronize : Bool} {ifsd : UInt8} {e : Error}
    (hlimit : limit ≤ kCardUartFrameMaxLength) (hdeadline : deadline ≤ timeMax)
    (hspeaks : Speaks p w.session)
    (hw : Holds (LinkStep p limit) start first w (Settled (Fresh executed) deadline w.time)) :
    After (announcedOrRetried fuel deadline resynchronize ifsd (.error e)) w
      (fun _ w' => w'.session = w.session ∧ Holds (LinkStep p limit) start first w'
        (Idle (Fresh executed)))
      fun _ _ => True := by
  unfold announcedOrRetried
  dsimp only
  split
  · refine (Program.after_bind _).2 ((resynchronizeCard_spec hlimit hdeadline hspeaks hw).mono
      (fun _ w₁ ⟨hsession, hidle⟩ => ?_) fun _ _ _ => trivial)
    refine (announceIfsd_spec hlimit hdeadline (hsession ▸ hspeaks) (hidle.mono fun _ => .inl)).mono
      (fun _ w₂ ⟨hsession₂, hidle₂⟩ => ⟨hsession₂.trans hsession, hidle₂⟩) fun _ _ _ => trivial
  · trivial

theorem deadlineFrom_le {now ms : Nat} (h : ms ≤ timeMax) : deadlineFrom now ms ≤ timeMax := by
  unfold deadlineFrom
  split <;> omega

/-- **The T=1 session starts.** -/
theorem initializeT1_spec {resynchronize : Bool} {ifsd : UInt8}
    (hlimit : limit ≤ kCardUartFrameMaxLength) (hspeaks : Speaks p w.session)
    (hw : Holds (LinkStep p limit) start first w (Idle (Fresh executed))) :
    After (initializeT1 fuel resynchronize ifsd) w
      (fun _ w' => w'.session = w.session.started ∧
        Holds (LinkStep p limit) start first w' (Idle (Fresh executed)))
      fun _ _ => True := by
  unfold initializeT1
  refine (Program.after_bind _).2 (after_update.2 ?_)
  have hspeaks₀ : Speaks p (w.withSession w.session.started).session :=
    ⟨hspeaks.useCrc, hspeaks.cardIfsc, hspeaks.blockTimeoutMs⟩
  have hw₀ : Holds (LinkStep p limit) start first (w.withSession w.session.started)
      (Idle (Fresh executed)) := hw
  have hsession₀ : (w.withSession w.session.started).session = w.session.started := rfl
  show After _ (w.withSession w.session.started) _ _
  generalize w.withSession w.session.started = w₀ at hspeaks₀ hw₀ hsession₀ ⊢
  rw [← hsession₀]
  refine (Program.after_bind _).2 ((link_laws p limit).after_deadlineAfter hw₀
    fun w₁ hsilent hw₁ => ?_)
  generalize hdeadline : deadlineFrom (min w₁.time timeMax) kOperationTimeoutMs = deadline
  have hmax : deadline ≤ timeMax := hdeadline ▸ deadlineFrom_le (by decide)
  have hspeaks₁ : Speaks p w₁.session := hsilent.session ▸ hspeaks₀
  have hready : After (if resynchronize = true then resynchronizeCard fuel deadline kMaxRetries
      else pure ()) w₁
      (fun _ w' => w'.session = w₁.session ∧
        Holds (LinkStep p limit) start first w' (Idle (Fresh executed)))
      fun _ _ => True :=
    Program.after_ite (resynchronizeCard_spec hlimit hmax hspeaks₁
      (hw₁.mono fun _ => .inl)) ⟨rfl, hw₁⟩
  refine (Program.after_bind _).2 (hready.mono (fun _ w₂ ⟨hsession₂, hw₂⟩ => ?_)
    fun _ _ _ => trivial)
  have hspeaks₂ : Speaks p w₂.session := hsession₂ ▸ hspeaks₁
  have hsession : w₂.session = w₀.session := hsession₂.trans hsilent.session
  refine (Program.after_bind _).2 (after_attempt ((announceIfsd_spec hlimit hmax hspeaks₂
    (hw₂.mono fun _ => .inl)).mono (fun block w₃ ⟨hsession₃, hw₃⟩ => ?_)
    fun stop w₃ ⟨hsession₃, hstop⟩ => ?_))
  · exact Program.after_ite trivial ⟨hsession₃.trans hsession, hw₃⟩
  · cases stop with
    | undefined => trivial
    | failure e =>
      refine (Program.after_bind _).2
        ((announcedOrRetried_spec hlimit hmax (hsession₃ ▸ hspeaks₂) hstop).mono
        (fun block w₄ ⟨hsession₄, hw₄⟩ => ?_) fun _ _ _ => trivial)
      exact Program.after_ite trivial ⟨hsession₄.trans (hsession₃.trans hsession), hw₄⟩

/-- After no surroundings anything holds. -/
theorem Sent.impossible {F : List UInt8 → Prop} {w' : World CardSession}
    {P : Line Linked → Prop} (h : Sent F w w')
    (hw : Holds (LinkStep p limit) start first w fun _ => False) :
    Holds (LinkStep p limit) start first w' P := by
  obtain ⟨new, hsince, -⟩ := h
  exact (hw.before hsince.log hsince.clock).mono fun _ ⟨_, hfalse⟩ => hfalse.elim

/-- What a session keeps of the ATR of its card. -/
theorem speaks_of_parsed {parsed : CardAtr} (h : parseCardAtr (ByteView.of p.atr) = .ok parsed) :
    Speaks p (sessionOf parsed) := by
  obtain ⟨hcrc, hifsc, htimeout⟩ := p.announced parsed h
  exact ⟨hcrc.symm, hifsc.symm, htimeout.symm⟩

/-- **The card and the session when it is initialized.** -/
theorem initializeSession_spec (hlimit : limit ≤ kCardUartFrameMaxLength)
    (hw : Holds (LinkStep p limit) start first w (Executed executed)) :
    After (initializeSession fuel) w
      (fun _ w' => ∃ parsed, w'.session = sessionOf parsed ∧
        Holds (LinkStep p limit) start first w' fun l =>
        parseCardAtr (ByteView.of p.atr) = .ok parsed ∧ Idle (Fresh executed) l)
      fun _ _ => True := by
  unfold initializeSession
  refine (Program.after_bind _).2 (after_update.2 ?_)
  have hreset := (@resetAndReadCardAtr_spec _ _ _ fuel _ _ _
    (show Holds (LinkStep p limit) start first (w.withSession {}) (Executed executed) from hw)).and
    (Quiet.resetAndReadCardAtr fuel (w.withSession {}))
  refine (Program.after_bind _).2 (hreset.mono (fun atr w₁ ⟨hread, hsilent⟩ => ?_)
    fun _ _ _ => trivial)
  refine (Program.after_bind _).2 (after_update.2 ?_)
  dsimp only
  rw [hsilent.session]
  generalize hw₂ : w₁.withSession _ = w₂
  have hsession₂ : { w₂.session.started with initialized := true } = sessionOf atr := by
    rw [← hw₂]
    rfl
  replace hread : Holds (LinkStep p limit) start first w₂ fun l =>
      parseCardAtr (ByteView.of p.atr) = .ok atr ∧ Idle (Fresh executed) l := hw₂ ▸ hread
  have hstarted : After (initializeT1 fuel (!(atr.baudRate == .baud38400)) (ifsdFor atr)) w₂
      (fun _ w' => w'.session = w₂.session.started ∧
        Holds (LinkStep p limit) start first w' fun l =>
        parseCardAtr (ByteView.of p.atr) = .ok atr ∧ Idle (Fresh executed) l)
      fun _ _ => True := by
    by_cases hparsed : parseCardAtr (ByteView.of p.atr) = .ok atr
    · have hspeaks : Speaks p w₂.session := by
        obtain ⟨hcrc, hifsc, htimeout⟩ := speaks_of_parsed hparsed
        rw [← hsession₂] at hcrc hifsc htimeout
        exact ⟨hcrc, hifsc, htimeout⟩
      refine (initializeT1_spec hlimit hspeaks (hread.mono fun _ => And.right)).mono
        (fun _ w₃ ⟨hsession, hidle⟩ => ⟨hsession, hidle.mono fun _ hl => ⟨hparsed, hl⟩⟩)
        fun _ _ _ => trivial
    · have hnone : Holds (LinkStep p limit) start first (w₂.withSession w₂.session.started)
          fun _ => False :=
        hread.mono fun _ hl => hparsed hl.1
      exact (initializeT1_calls fuel _ _ w₂).mono
        (fun _ w₃ ⟨hsent, _⟩ => ⟨hsent.session, hsent.impossible hnone⟩) fun _ _ _ => trivial
  refine (Program.after_bind _).2
    (after_attempt (hstarted.mono (fun _ w₃ ⟨hsession, hidle⟩ => ?_) fun stop _ _ => ?_))
  · refine ⟨atr, ?_, hidle⟩
    show { w₃.session with initialized := true } = sessionOf atr
    rw [hsession]
    exact hsession₂
  · cases stop with
    | undefined => trivial
    | failure e => trivial

end

/-! ## The IFSC -/

theorem select_ifsc {atr : CardAtr} (h : 1 ≤ atr.ifsc.toNat) (ta tb tc : Option UInt8) :
    1 ≤ (atr.select ta tb tc).ifsc.toNat := by
  have hta : 1 ≤ (atr.select ta none none).ifsc.toNat := by
    cases ta with
    | none => exact h
    | some ta =>
      unfold CardAtr.select
      dsimp only
      split
      · next hta => exact UInt8.le_iff_toNat_le.1 hta.1
      · exact h
  cases tb with
  | none =>
    cases tc with
    | none => exact hta
    | some tc => exact hta
  | some tb =>
    cases tc with
    | none => exact hta
    | some tc => exact hta

theorem checkTa1_ifsc {group : Nat} {ta : Option UInt8} {s s' : Groups}
    (h : checkTa1 group ta s = .ok s') :
    s'.result.ifsc = s.result.ifsc := by
  unfold checkTa1 at h
  cases ta with
  | none =>
    cases h
    rfl
  | some ta =>
    dsimp only at h
    split at h
    · split at h
      · cases h
        rfl
      · cases h
    · cases h
      rfl

theorem parseGroups_ifsc {fuel : Nat} {interfaces : UInt8} {group : Nat} {s s' : Groups}
    {rest after : List UInt8} (hs : 1 ≤ s.result.ifsc.toNat)
    (h : parseGroups fuel interfaces group s rest = .ok (s', after)) :
    1 ≤ s'.result.ifsc.toNat := by
  induction fuel generalizing interfaces group s rest with
  | zero => cases h
  | succ fuel ih =>
    unfold parseGroups at h
    split at h
    · cases h
      exact hs
    rcases hcharacters : groupCharacters interfaces rest with e | ⟨⟨ta, tb, tc⟩, rest'⟩
    · rw [hcharacters] at h
      cases h
    rcases hcheck : checkTa1 group ta s with e | checked
    · simp only [hcharacters, hcheck, bind, Except.bind] at h
      cases h
    simp only [hcharacters, hcheck, bind, Except.bind] at h
    generalize hselected : (if checked.t1Group = true ∧ 3 ≤ group then
      { checked with result := checked.result.select ta tb tc } else checked) = selected at h
    have hchecked : 1 ≤ checked.result.ifsc.toNat := by rwa [checkTa1_ifsc hcheck]
    have hselect : 1 ≤ selected.result.ifsc.toNat := by
      rw [← hselected]
      split
      · exact select_ifsc hchecked ta tb tc
      · exact hchecked
    rcases htd : interfaceCharacter (interfaces &&& 0x08 ≠ 0) rest' with e | ⟨_ | td, rest''⟩
    · rw [htd] at h
      cases h
    · rw [htd] at h
      cases h
      exact hselect
    · rw [htd] at h
      exact ih (by exact hselect) h

/-- The IFSC that an ATR announces is not zero. -/
theorem ifsc_pos {bytes : List UInt8} {parsed : CardAtr}
    (h : parseCardAtr (ByteView.of bytes) = .ok parsed) :
    1 ≤ parsed.ifsc.toNat := by
  unfold parseCardAtr at h
  split at h
  · cases h
  split at h
  · cases h
  split at h
  · cases h
  split at h
  · split at h
    · cases h
    dsimp only at h
    split at h
    · cases h
    · next s after hgroups =>
      have hifsc := parseGroups_ifsc (by decide) hgroups
      generalize (if s.hasNonT0Protocol = true then 1 else 0) = checked at h
      split at h
      · cases h
      split at h
      · cases h
      split at h
      · cases h
      split at h
      · cases h
      · cases h
        exact hifsc
  · cases h

end Px4.Card
