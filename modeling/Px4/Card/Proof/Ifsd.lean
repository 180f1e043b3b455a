import Px4.Card.Proof.Exchange

/-!
# The IFSD that is announced

* `initializeSession_calls`: what a session has announced when it is initialized.
* `receivable`: of the blocks within the announced IFSD, those with frames of at most 255 bytes are
  received.
-/

namespace Px4.Card

open Lib (Program Plays)
open Lib.Program (After)

/-! ## What is announced -/

section
variable {S : Type}

theorem Quiet.readAtrFrom (fuel deadline rounds : Nat) (atr : List UInt8) :
    Quiet (readAtrFrom fuel deadline rounds atr : Driver S CardAtr) := by
  induction rounds generalizing atr with
  | zero => exact .throw _
  | succ rounds ih =>
    have hagain (atr : List UInt8) : Quiet (do
        Card.call (.sleepMs kPollIntervalMs)
        Card.readAtrFrom fuel deadline rounds atr : Driver S CardAtr) :=
      (Quiet.call (q := .sleepMs _) nofun).bind fun _ => ih atr
    refine (Quiet.deadlineExpired deadline).bind fun expired => .ite (.throw _) ?_
    refine (Quiet.waitDataReady deadline fuel).bind fun _ => .ite (.throw _) ?_
    refine (Quiet.call (q := .readData _) nofun).checked.bind fun read =>
      .ite (.throw _) (.ite ?_ (hagain _))
    cases parseCardAtr (ByteView.of (atr ++ read)) with
    | ok parsed => exact .pure _
    | error e => exact .ite (.throw _) (hagain _)

theorem Quiet.readAtrAttempts (fuel left attempts : Nat) :
    Quiet (readAtrAttempts fuel left attempts : Driver S CardAtr) := by
  induction left generalizing attempts with
  | zero => exact .throw _
  | succ left ih =>
    refine (Quiet.call (q := .resetCard) nofun).checked.bind fun _ =>
      .bind (.attempt ?_) fun result => ?_
    · exact (Quiet.deadlineAfter _).bind fun deadline => .readAtrFrom fuel deadline fuel []
    · cases result with
      | ok atr => exact (Quiet.call (q := .setBaudRate _) nofun).checked.bind fun _ => .pure _
      | error e => exact .ite (.throw _) (ih _)

theorem Quiet.resetAndReadCardAtr (fuel : Nat) :
    Quiet (resetAndReadCardAtr fuel : Driver S CardAtr) :=
  (Quiet.call (q := .detectCard) nofun).checked.bind fun _ =>
    .ite (.throw _) (.readAtrAttempts fuel 2 0)

end

/-- The frames of an initialization. -/
def InitializationFrame (useCrc : Bool) (ifsd : UInt8) (frame : List UInt8) : Prop :=
  FrameOf useCrc resynchronizeBlock frame ∨ FrameOf useCrc (ifsBlock ifsd) frame

theorem resynchronizeCard_calls (fuel deadline maxRetries : Nat) (ifsd : UInt8)
    (w : World CardSession) :
    After (resynchronizeCard fuel deadline maxRetries) w
      (fun _ => Sent (InitializationFrame w.session.useCrc ifsd) w)
      fun _ => Sent (InitializationFrame w.session.useCrc ifsd) w := by
  refine (Program.after_bind _).2 ((exchangeBlock_calls fuel _ noData deadline maxRetries w).mono
    (fun response w' h => ?_) fun _ _ h => h.mono fun _ => .inl)
  refine Program.after_ite ?_ ?_
  · exact h.1.mono fun _ => .inl
  · exact h.1.mono fun _ => .inl

theorem announceIfsd_calls (fuel deadline maxRetries : Nat) (ifsd : UInt8) (w : World CardSession) :
    After (announceIfsd fuel deadline maxRetries ifsd) w
      (fun _ w' => Sent (InitializationFrame w.session.useCrc ifsd) w w' ∧
        Wrote (frameOf w.session.useCrc (ifsBlock ifsd)) w w')
      fun _ => Sent (InitializationFrame w.session.useCrc ifsd) w :=
  (exchangeBlock_calls fuel _ (ByteView.of [ifsd]) deadline maxRetries w).mono
    (fun _ _ h => ⟨h.1.mono fun _ => .inr, h.2.2⟩) fun _ _ h => h.mono fun _ => .inr

/-- A session whose sequences start. -/
def CardSession.started (session : CardSession) : CardSession :=
  { session with sendSequence := false, receiveSequence := false }

/-- **What is announced in an initialization.** -/
theorem initializeT1_calls (fuel : Nat) (resynchronize : Bool) (ifsd : UInt8)
    (w : World CardSession) :
    After (initializeT1 fuel resynchronize ifsd) w
      (fun _ w' => Sent (InitializationFrame w.session.useCrc ifsd)
        (w.withSession w.session.started) w' ∧
        Wrote (frameOf w.session.useCrc (ifsBlock ifsd)) (w.withSession w.session.started) w')
      fun _ w' => Sent (InitializationFrame w.session.useCrc ifsd)
        (w.withSession w.session.started) w' := by
  unfold initializeT1
  refine (Program.after_bind _).2 (after_update.2 ?_)
  have hcrc : w.session.useCrc = (w.withSession w.session.started).session.useCrc := rfl
  show After _ (w.withSession w.session.started) _ _
  rw [hcrc]
  generalize w.withSession w.session.started = w₀
  generalize hF : InitializationFrame w₀.session.useCrc ifsd = F
  have hresynchronize (deadline maxRetries : Nat) {w₁ : World CardSession} (h : Sent F w₀ w₁) :
      After (resynchronizeCard fuel deadline maxRetries) w₁ (fun _ => Sent F w₀) fun _ =>
        Sent F w₀ := by
    have hcalls := resynchronizeCard_calls fuel deadline maxRetries ifsd w₁
    rw [h.session, hF] at hcalls
    exact hcalls.mono (fun _ _ => h.trans) fun _ _ => h.trans
  have hannounce (deadline maxRetries : Nat) {w₁ : World CardSession} (h : Sent F w₀ w₁) :
      After (announceIfsd fuel deadline maxRetries ifsd) w₁
        (fun _ w' => Sent F w₀ w' ∧ Wrote (frameOf w₀.session.useCrc (ifsBlock ifsd)) w₀ w')
        fun _ => Sent F w₀ := by
    have hcalls := announceIfsd_calls fuel deadline maxRetries ifsd w₁
    rw [h.session, hF] at hcalls
    exact hcalls.mono (fun _ _ h' => ⟨h.trans h'.1, h.wrote h'.2⟩) fun _ _ => h.trans
  refine (Program.after_bind _).2 ((Quiet.deadlineAfter _ w₀).mono (fun deadline w₁ hsilent => ?_)
    fun _ _ hsilent => hsilent.sent)
  refine (Program.after_bind _).2 (After.mono (Q := fun _ => Sent F w₀) (R := fun _ => Sent F w₀) ?_
    (fun _ w₂ hsent => ?_) fun _ _ => id)
  · split
    · exact hresynchronize _ _ hsilent.sent
    · exact hsilent.sent
  refine (Program.after_bind _).2
    (after_attempt ((hannounce _ _ hsent).mono (fun block w₃ hannounced => ?_)
    fun stop w₃ hsent₃ => ?_))
  · exact Program.after_ite hannounced.1 hannounced
  · cases stop with
    | undefined => exact hsent₃
    | failure e =>
      refine (Program.after_bind _).2 ?_
      unfold announcedOrRetried
      dsimp only
      split
      · refine (Program.after_bind _).2
          ((hresynchronize deadline 1 hsent₃).mono (fun _ w₄ hsent₄ => ?_) fun _ _ => id)
        refine (hannounce deadline kMaxRetries hsent₄).mono
          (fun block w₅ hannounced => ?_) fun _ _ => id
        exact Program.after_ite hannounced.1 hannounced
      · exact hsent₃

/-- S(IFS) has announced an IFSD, and no other one. -/
def Announced (w w' : World CardSession) (ifsd : UInt8) : Prop :=
  ∃ new, w'.hardware.log = w.hardware.log ++ new ∧
    frameOf w'.session.useCrc (ifsBlock ifsd) ∈ writesOf new ∧
    ∀ frame ∈ writesOf new, frame[1]? = some (kT1SBlock ||| kT1SIfs) →
    frame = frameOf w'.session.useCrc (ifsBlock ifsd)

theorem InitializationFrame.eq {useCrc : Bool} {ifsd : UInt8} {frame : List UInt8}
    (h : InitializationFrame useCrc ifsd frame) (hifs : frame[1]? = some (kT1SBlock ||| kT1SIfs)) :
    frame = frameOf useCrc (ifsBlock ifsd) := by
  have hwtx : ¬kT1SBlock ||| kT1SResponse ||| kT1SWtx = kT1SBlock ||| kT1SIfs := by decide
  rcases h with (⟨_, rfl⟩ | ⟨_, rfl⟩) | ⟨_, rfl⟩ | ⟨_, rfl⟩
  · exact absurd (Option.some.inj hifs) (by decide)
  · exact absurd (Option.some.inj hifs) hwtx
  · rfl
  · exact absurd (Option.some.inj hifs) hwtx

/-- The fields of a session that an ATR has set up. -/
def sessionOf (atr : CardAtr) : CardSession where
  atr
  initialized := true
  useCrc := atr.edc == .crc
  cardIfsc := atr.ifsc
  blockTimeoutMs := atr.blockTimeoutMs

/-- **What a session has announced when it is initialized.** -/
theorem initializeSession_calls (fuel : Nat) (w : World CardSession) :
    After (initializeSession fuel) w
      (fun _ w' => ∃ atr, w'.session = sessionOf atr ∧ Announced w w' (ifsdFor atr))
      fun stop w' => stop ≠ .undefined → w'.session = {} := by
  unfold initializeSession
  refine (Program.after_bind _).2 (after_update.2 ?_)
  refine (Program.after_bind _).2
    ((Quiet.resetAndReadCardAtr fuel _).mono (fun atr w₁ hsilent => ?_)
    fun _ _ hsilent _ => hsilent.session)
  refine (Program.after_bind _).2 (after_update.2 ?_)
  dsimp only
  have hsession : w₁.session = {} := hsilent.session
  obtain ⟨before, hbefore, hquiet⟩ := hsilent
  have hlog : w₁.hardware.log = w.hardware.log ++ before := hbefore.log
  rw [hsession]
  refine (Program.after_bind _).2
    (after_attempt ((initializeT1_calls fuel _ _ _).mono (fun _ w₂ h => ?_)
    fun stop w₂ h => ?_))
  · obtain ⟨⟨new, hsince, hframes⟩, new', hsince', hwrote⟩ := h
    obtain rfl : new' = new := List.append_cancel_left (hsince'.log.symm.trans hsince.log)
    have hsession₂ : w₂.session.useCrc = (atr.edc == .crc) := by rw [hsince.session]; rfl
    refine ⟨atr, ?_, before ++ new', ?_, ?_, fun frame hframe hifs => ?_⟩
    · show ({ w₂.session with initialized := true } : CardSession) = sessionOf atr
      rw [hsince.session]
      rfl
    · show w₂.hardware.log = _
      rw [hsince.log, ← List.append_assoc, ← hlog]
      rfl
    · show frameOf w₂.session.useCrc _ ∈ _
      rw [hsession₂, writesOf_append]
      exact List.mem_append_right _ hwrote
    · show frame = frameOf w₂.session.useCrc _
      rw [hsession₂]
      rw [writesOf_append, writesOf_eq_nil hquiet] at hframe
      exact (hframes frame hframe).eq hifs
  · cases stop with
    | failure e => exact fun _ => rfl
    | undefined => exact fun h => absurd rfl h

theorem announced_of_initialized {fuel : Nat} {w w' : World CardSession}
    (h : (initializeSession fuel).exec w = (.ok (), w')) :
    ∃ atr, w'.session = sessionOf atr ∧ Announced w w' (ifsdFor atr) :=
  (initializeSession_calls fuel w).ok h

/-! ## What is delivered -/

/-- What a UART returns that has received some bytes. -/
inductive Arrives : Line Unit → Sigma Ask.Answer → Line Unit → Prop
  | clock (l : Line Unit) (a : Ask.monotonicMs.Answer) : Arrives l ⟨.monotonicMs, a⟩ l
  | sleep (l : Line Unit) (ms : Nat) (a : (Ask.sleepMs ms).Answer) : Arrives l ⟨.sleepMs ms, a⟩ l
  | ready (l : Line Unit) (r : Bool) (later : Nat) : (r = true → l.queue ≠ []) →
      Arrives l ⟨.dataReady, (.ok r, later)⟩ l
  | read (l : Line Unit) (capacity later : Nat) :
      Arrives l ⟨.readData capacity, (.ok (l.queue.take capacity), later)⟩
        { l with queue := l.queue.drop capacity }

/-- The calls deliver some bytes before the deadline, in reads that are full as long as there are
enough bytes. -/
def Delivers (deadline time : Nat) (l : Line Unit) (entry : Sigma Ask.Answer)
    (l' : Line Unit) : Prop :=
  time < deadline ∧ Arrives l entry l'

theorem delivers_laws (deadline : Nat) :
    UartLaws (Delivers deadline) (fun _ => deadline) False where
  clock := by
    rintro t l _ a ⟨ht, ⟨⟩⟩
    exact ⟨rfl, fun _ => ht⟩
  sleep := by
    rintro t l _ ms a ⟨-, ⟨⟩⟩
    rfl
  ready := by
    rintro t l _ r later ⟨-, h⟩
    cases h with
    | ready _ _ h => exact ⟨rfl, h⟩
  read := by
    rintro t l _ capacity bytes later ⟨-, ⟨⟩⟩
    exact ⟨rfl, rfl⟩
  unready := by
    rintro t l _ e later ⟨-, ⟨⟩⟩
  unread := by
    rintro t l _ capacity e later ⟨-, ⟨⟩⟩

theorem Delivers.lt {deadline : Nat} {g g' : Timed (Line Unit)} {log : Log}
    (h : Plays (timed (Delivers deadline)) g log g') (hg : g.time < deadline) :
    g'.time < deadline := by
  induction h with
  | nil => exact hg
  | cons hstep _ ih => exact ih hstep.2.1

/-- The frame of a block is delivered to `receive_block`. -/
structure BlockDelivered (fuel deadline : Nat) (block : Block) (w : World CardSession) : Prop where
  rounds : 2 ≤ fuel
  enough : deadline ≤ w.time + kPollIntervalMs * fuel
  start : w.time < deadline
  calls : ∃ new rest, ((receiveBlock fuel deadline).exec w).2.hardware.log = w.hardware.log ++ new ∧
    Plays (timed (Delivers deadline)) ⟨⟨(), frameOf w.session.useCrc block⟩, w.time⟩ new rest

/-- **What is delivered is received** just if its frame has at most 255 bytes. -/
theorem receiveBlock_iff {fuel deadline : Nat} {block : Block} {w : World CardSession}
    (h : BlockDelivered fuel deadline block w) (hdata : block.data.length ≤ 254) :
    ((receiveBlock fuel deadline).exec w).1 = .ok block ↔
      frameLength w.session.useCrc block ≤ kCardUartFrameMaxLength := by
  obtain ⟨new, rest, hlog, hplays⟩ := h.calls
  have hspec := @UartLaws.receiveBlock_spec _ _ _ _ _ _ (delivers_laws deadline) fuel deadline _ _
    (Holds.begin (Delivers deadline) w ⟨(), frameOf w.session.useCrc block⟩)
  have hdecode := @decodeFrame_frameOf w.session.useCrc _ hdata
  have hlt := Delivers.lt hplays h.start
  have htime : rest.time = ((receiveBlock fuel deadline).exec w).2.time := by
    have hquiet := Quiet.receiveBlock fuel deadline w
    have hsilent : Silent w ((receiveBlock fuel deadline).exec w).2 := by
      unfold After at hquiet
      generalize (receiveBlock fuel deadline).exec w = outcome at hquiet ⊢
      obtain ⟨stop | block', w'⟩ := outcome
      · exact hquiet
      · exact hquiet
    obtain ⟨new', hsince, -⟩ := hsilent
    obtain rfl : new' = new := List.append_cancel_left (hsince.log.symm.trans hlog)
    rw [timeAfter_of_plays hplays, hsince.clock]
  have hlimit := h.enough
  have hrounds := h.rounds
  unfold After at hspec
  generalize (receiveBlock fuel deadline).exec w = outcome at hspec hlog htime ⊢
  obtain ⟨stop | block', w'⟩ := outcome
  · dsimp only at htime
    have hstop := Holds.plays hspec hlog hplays
    cases stop with
    | undefined =>
      rcases hstop with hfew | hlong
      · omega
      · omega
    | failure e =>
      refine iff_of_false nofun fun hfits => ?_
      cases hstop with
      | expired hexpired =>
        have := hexpired.2.1
        omega
      | unreadable hl hbad _ =>
        subst hl
        rw [hdecode, if_pos hfits] at hbad
        rcases hbad with hnone | hfaults | hlong
        · cases hnone
        · exact hfaults
        · rw [frameOf_length] at hlong
          omega
  · obtain ⟨l, rfl, hblock, -⟩ := Holds.plays hspec hlog hplays
    rw [hdecode] at hblock
    split at hblock
    · next hfits =>
      cases hblock
      exact iff_of_true rfl hfits
    · cases hblock

/-- **The IFSD that is announced.** Of the blocks that the announced IFSD permits, just those are
received, when they are delivered, whose frames have at most 255 bytes. -/
theorem receivable {fuel : Nat} {w w' : World CardSession}
    (h : (initializeSession fuel).exec w = (.ok (), w')) :
    ∃ atr, w'.session = sessionOf atr ∧ Announced w w' (ifsdFor atr) ∧
      ∀ (v : World CardSession) (fuel deadline : Nat) (block : Block), v.session = w'.session →
        block.data.length ≤ (ifsdFor atr).toNat → BlockDelivered fuel deadline block v →
          (((receiveBlock fuel deadline).exec v).1 = .ok block ↔
            3 + block.data.length + edcLength (atr.edc == .crc) ≤ 255) := by
  obtain ⟨atr, hsession, hannounced⟩ := announced_of_initialized h
  refine ⟨atr, hsession, hannounced, fun v fuel deadline block hv hlength hdelivered => ?_⟩
  have hifsd : (ifsdFor atr).toNat ≤ 254 := by
    unfold ifsdFor
    split
    · decide
    · split <;> decide
  rw [receiveBlock_iff hdelivered (Nat.le_trans hlength hifsd), hv, hsession]
  exact Iff.rfl

/-! ## A card at 38400 baud -/

/-- What is parsed of the ATR that selects 38400 baud. -/
def acasAtr : CardAtr where
  bytes := acasBytes
  baudRate := .baud38400
  ifsc := 0xfe
  blockTimeoutMs := 1600

/-- The answer to S(IFS). -/
def ifsAnswer (ifsd : UInt8) : Block := ⟨kT1SBlock ||| kT1SResponse ||| kT1SIfs, [ifsd]⟩

/-- The card before it is initialized. -/
def acasWorld : World CardSession := ⟨{}, scripted [acasBytes, frameOf false (ifsAnswer 254)], 0⟩

theorem exec_acasWorld :
    (initializeSession 2).exec acasWorld = (.ok (), ((initializeSession 2).exec acasWorld).2) := by
  have hok : ((initializeSession 2).exec acasWorld).1 = .ok () := by decide +kernel
  generalize (initializeSession 2).exec acasWorld = outcome at hok ⊢
  obtain ⟨result, w'⟩ := outcome
  rw [← hok]

/-- What has been announced to that card, and what it may then send. -/
theorem receivable_acas : ∃ atr, ((initializeSession 2).exec acasWorld).2.session = sessionOf atr ∧
    Announced acasWorld ((initializeSession 2).exec acasWorld).2 (ifsdFor atr) ∧
      ∀ (v : World CardSession) (fuel deadline : Nat) (block : Block),
        v.session = ((initializeSession 2).exec acasWorld).2.session →
          block.data.length ≤ (ifsdFor atr).toNat → BlockDelivered fuel deadline block v →
            (((receiveBlock fuel deadline).exec v).1 = .ok block ↔
              3 + block.data.length + edcLength (atr.edc == .crc) ≤ 255) :=
                receivable exec_acasWorld

/-- A block of the announced length. -/
def longBlock : Block := ⟨iBlock false false, List.replicate 254 0⟩

theorem longBlock_length : longBlock.data.length = 254 := List.length_replicate

/-- The card when it has sent that block. -/
def longWorld : World CardSession := ⟨sessionOf acasAtr, scripted [frameOf false longBlock], 0⟩

theorem longWorld_log : ((receiveBlock 2 5).exec longWorld).2.hardware.log =
    [⟨.monotonicMs, ((), 0)⟩, ⟨.monotonicMs, ((), 0)⟩, ⟨.dataReady, (.ok true, 0)⟩,
      ⟨.readData 255, (.ok ((frameOf false longBlock).take 255), 0)⟩] := by decide +kernel

theorem longBlock_delivered : BlockDelivered 2 5 longBlock longWorld where
  rounds := Nat.le_refl 2
  enough := by decide
  start := by decide
  calls := by
    refine ⟨_, ⟨⟨(), (frameOf false longBlock).drop 255⟩, 0⟩, longWorld_log, ?_⟩
    refine @Plays.cons _ _ _ _ ⟨⟨(), frameOf false longBlock⟩, 0⟩ _ _ _
      ⟨rfl, by decide, .clock _ _⟩ ?_
    refine @Plays.cons _ _ _ _ ⟨⟨(), frameOf false longBlock⟩, 0⟩ _ _ _
      ⟨rfl, by decide, .clock _ _⟩ ?_
    refine @Plays.cons _ _ _ _ ⟨⟨(), frameOf false longBlock⟩, 0⟩ _ _ _
      ⟨rfl, by decide, .ready _ _ _ fun _ => List.cons_ne_nil _ _⟩ ?_
    exact .cons ⟨rfl, by decide, .read ⟨(), frameOf false longBlock⟩ 255 0⟩ (.nil _)

/-- A block of the announced length is delivered and not received. -/
theorem receivable_long : ∃ (w w' v : World CardSession) (fuel fuel' deadline : Nat)
    (ifsd : UInt8) (block : Block),
    (initializeSession fuel).exec w = (.ok (), w') ∧ Announced w w' ifsd ∧ v.session = w'.session ∧
      block.data.length ≤ ifsd.toNat ∧ BlockDelivered fuel' deadline block v ∧
        ((receiveBlock fuel' deadline).exec v).1 ≠ .ok block := by
  have hsession : ((initializeSession 2).exec acasWorld).2.session = sessionOf acasAtr := by
    decide +kernel
  obtain ⟨atr, hatr, hannounced⟩ := announced_of_initialized exec_acasWorld
  have hsame : atr = acasAtr := congrArg CardSession.atr (hatr.symm.trans hsession)
  refine ⟨acasWorld, _, longWorld, 2, 2, 5, ifsdFor atr, longBlock, exec_acasWorld,
    hannounced, hsession.symm, ?_,
    longBlock_delivered, ?_⟩
  · rw [hsame, longBlock_length]
    decide
  · rw [Ne, receiveBlock_iff longBlock_delivered (Nat.le_of_eq longBlock_length),
      frameLength, longBlock_length]
    decide

end Px4.Card
