import Px4.Card.Proof.Reset

/-!
# Frames that fit a session

* `exchangeBlock_calls` in terms of what fits: `Emitting.exchangeBlock`.
* `Emitting.transmitInitialized`: the frames of a transmission.
-/

namespace Px4.Card

open Lib (Program)
open Lib.Program (After)

/-! ## Frames that fit -/

/-- A frame of a block that is not too long. -/
def Fits (useCrc : Bool) (ifsc : UInt8) (frame : List UInt8) : Prop :=
  ∃ block, frame = frameOf useCrc block ∧ frameLength useCrc block ≤ kCardUartFrameMaxLength ∧
    block.data.length ≤ ifsc.toNat

theorem FrameOf.fits {useCrc : Bool} {ifsc : UInt8} {block : Block} {frame : List UInt8}
    (h : FrameOf useCrc block frame) (hdata : block.data.length ≤ ifsc.toNat)
    (hifsc : 1 ≤ ifsc.toNat) :
    Fits useCrc ifsc frame := by
  rcases h with ⟨hlimit, rfl⟩ | ⟨multiplier, rfl⟩
  · exact ⟨block, rfl, hlimit, hdata⟩
  · refine ⟨wtxBlock multiplier, rfl, ?_, hifsc⟩
    cases useCrc
    · exact (by decide : 3 + 1 + edcLength false ≤ 255)
    · exact (by decide : 3 + 1 + edcLength true ≤ 255)

/-- Calls that write only such frames. -/
def Calls (F : List UInt8 → Prop) (w w' : World CardSession) : Prop :=
  ∃ new, w'.hardware.log = w.hardware.log ++ new ∧ w'.time = timeAfter w.time new ∧
    ∀ frame ∈ writesOf new, F frame

theorem Calls.refl (F : List UInt8 → Prop) (w : World CardSession) : Calls F w w :=
  ⟨[], (List.append_nil _).symm, rfl, nofun⟩

theorem Calls.trans {F : List UInt8 → Prop} {w w' w'' : World CardSession} (h : Calls F w w')
    (h' : Calls F w' w'') :
    Calls F w w'' := by
  obtain ⟨new, hlog, htime, hnew⟩ := h
  obtain ⟨new', hlog', htime', hnew'⟩ := h'
  refine ⟨new ++ new', by rw [hlog', hlog, List.append_assoc], ?_, fun frame hframe => ?_⟩
  · rw [htime', htime]
    unfold timeAfter
    rw [List.foldl_append]
  · rw [writesOf_append] at hframe
    exact (List.mem_append.1 hframe).elim (hnew frame) (hnew' frame)

theorem Calls.mono {F F' : List UInt8 → Prop} {w w' : World CardSession} (h : Calls F w w')
    (hF : ∀ frame, F frame → F' frame) : Calls F' w w' := by
  obtain ⟨new, hlog, htime, hnew⟩ := h
  exact ⟨new, hlog, htime, fun frame hframe => hF frame (hnew frame hframe)⟩

theorem Sent.calls {F : List UInt8 → Prop} {w w' : World CardSession} (h : Sent F w w') :
    Calls F w w' := by
  obtain ⟨new, hsince, hnew⟩ := h
  exact ⟨new, hsince.log, hsince.clock, hnew⟩

/-- Calls of a session that write only such frames. -/
structure Emits (F : List UInt8 → Prop) (useCrc : Bool) (ifsc : UInt8)
    (w w' : World CardSession) : Prop where
  calls : Calls F w w'
  crc : w'.session.useCrc = useCrc
  cardIfsc : w'.session.cardIfsc = ifsc

/-- A function that writes only such frames in a session. -/
def Emitting {α : Type} (F : List UInt8 → Prop) (useCrc : Bool) (ifsc : UInt8)
    (x : Session α) : Prop :=
  ∀ w, w.session.useCrc = useCrc → w.session.cardIfsc = ifsc →
    After x w (fun _ => Emits F useCrc ifsc w) fun _ => Emits F useCrc ifsc w

section
variable {α β : Type} {F : List UInt8 → Prop} {useCrc : Bool} {ifsc : UInt8} {x : Session α}

theorem Emitting.bind {f : α → Session β} (hx : Emitting F useCrc ifsc x)
    (hf : ∀ a, Emitting F useCrc ifsc (f a)) :
    Emitting F useCrc ifsc (x >>= f) := by
  intro w hcrc hifsc
  refine (Program.after_bind _).2 ((hx w hcrc hifsc).mono (fun a w' h => ?_) fun _ _ h => h)
  have hcalls := h.calls
  exact (hf a w' h.crc h.cardIfsc).mono (fun _ _ h' => ⟨hcalls.trans h'.calls, h'.crc, h'.cardIfsc⟩)
    fun _ _ h' => ⟨hcalls.trans h'.calls, h'.crc, h'.cardIfsc⟩

theorem Emitting.pure (a : α) : Emitting F useCrc ifsc (pure a : Session α) :=
  fun w hcrc hifsc => ⟨.refl _ w, hcrc, hifsc⟩

theorem Emitting.throw (stop : Stop) : Emitting F useCrc ifsc (throw stop : Session α) :=
  fun w hcrc hifsc => ⟨.refl _ w, hcrc, hifsc⟩

theorem Emitting.ite {c : Prop} [Decidable c] {y : Session α} (hx : Emitting F useCrc ifsc x)
    (hy : Emitting F useCrc ifsc y) : Emitting F useCrc ifsc (if c then x else y) := by
  split
  · exact hx
  · exact hy

/-- The fields, of which those that the frames depend on are known. -/
theorem Emitting.fields {f : CardSession → Session β}
    (hf : ∀ session : CardSession, session.useCrc = useCrc → session.cardIfsc = ifsc →
      Emitting F useCrc ifsc (f session)) : Emitting F useCrc ifsc (fields >>= f) :=
  fun w hcrc hifsc => (Program.after_bind _).2
    (after_fields.2 (hf w.session hcrc hifsc w hcrc hifsc))

theorem Emitting.update (f : CardSession → CardSession)
    (hcrc : ∀ session, (f session).useCrc = session.useCrc)
    (hifsc : ∀ session, (f session).cardIfsc = session.cardIfsc) :
    Emitting F useCrc ifsc (update f) :=
  fun w hcrc' hifsc' => ⟨.refl _ w, (hcrc w.session).trans hcrc', (hifsc w.session).trans hifsc'⟩

theorem Emitting.received (block : Option Block) : Emitting F useCrc ifsc (received block) := by
  cases block with
  | none => exact .throw _
  | some block => exact .pure _

variable {fuel deadline : Nat}
  (hF : ∀ {block frame}, FrameOf useCrc block frame → block.data.length ≤ ifsc.toNat → F frame)

include hF

/-- **An exchange.** -/
theorem Emitting.exchangeBlock {maxRetries : Nat} {pcb : UInt8} {data : ByteView}
    (hdata : data.bytes.length ≤ ifsc.toNat) :
    Emitting F useCrc ifsc (exchangeBlock fuel pcb data deadline maxRetries) := by
  intro w hcrc hcard
  have hfits {w' : World CardSession} (h : Sent (FrameOf w.session.useCrc ⟨pcb, data.bytes⟩) w w') :
      Emits F useCrc ifsc w w' := by
    refine ⟨h.calls.mono fun frame hframe => ?_, by rw [h.session, hcrc], by rw [h.session, hcard]⟩
    rw [hcrc] at hframe
    exact hF hframe hdata
  exact (exchangeBlock_calls fuel pcb data deadline maxRetries w).mono (fun _ _ h => hfits h.1)
    fun _ _ h => hfits h

theorem Emitting.sendChunk {pcb : UInt8} {data : ByteView} {hasMore : Bool} {left : Nat}
    (hdata : data.bytes.length ≤ ifsc.toNat) :
    Emitting F useCrc ifsc (sendChunk fuel pcb data hasMore deadline left) := by
  induction left with
  | zero => exact .pure _
  | succ left ih =>
    refine (Emitting.exchangeBlock hF hdata).bind fun block => .ite ?_ (.ite (.pure _) (.throw _))
    exact .fields fun session _ _ => .ite ih (.pure _)

theorem Emitting.requestResponse {left : Nat} :
    Emitting F useCrc ifsc (requestResponse fuel deadline left) := by
  induction left with
  | zero => exact .pure _
  | succ left ih =>
    refine .fields fun session _ _ => (Emitting.exchangeBlock hF (Nat.zero_le _)).bind
      fun block => ?_
    exact .ite (.pure _) (.ite (.throw _) ih)

theorem Emitting.sendFrom {apdu : ByteView} {rounds offset : Nat} {block : Block} :
    Emitting F useCrc ifsc (sendFrom fuel apdu deadline rounds offset block) := by
  induction rounds generalizing offset block with
  | zero => exact .throw _
  | succ rounds ih =>
    refine .ite (.fields fun session _ hcard => ?_) (.pure _)
    refine (Emitting.sendChunk hF ?_).bind fun accepted =>
      (Emitting.received accepted).bind fun block => ?_
    · -- a part is no longer than the IFSC
      rw [ByteView.of_bytes, List.length_take, ← hcard]
      exact Nat.le_trans (Nat.min_le_left _ _)
        (Nat.le_trans (Nat.min_le_left _ _) (Nat.min_le_left _ _))
    · refine Emitting.bind (.ite ((Emitting.requestResponse hF).bind fun _ => .received _)
        (.pure _)) fun block => ?_
      refine Emitting.bind (.update _ ?_ ?_) fun _ => ih
      · exact fun _ => rfl
      · exact fun _ => rfl

theorem Emitting.receiveResponse {capacity rounds : Nat} {response : List UInt8} {block : Block} :
    Emitting F useCrc ifsc (receiveResponse fuel capacity deadline rounds response block) := by
  induction rounds generalizing response block with
  | zero => exact .throw _
  | succ rounds ih =>
    refine .fields fun session _ _ => .ite (.throw _) (.ite (.throw _) ?_)
    dsimp only
    refine Emitting.bind (.update _ ?_ ?_) fun _ => .ite (.pure _) (.fields fun session _ _ => ?_)
    · exact fun _ => rfl
    · exact fun _ => rfl
    · exact (Emitting.exchangeBlock hF (Nat.zero_le _)).bind fun block => .ite (.throw _) ih

/-- **The frames of a transmission.** -/
theorem Emitting.transmitInitialized {apdu : ByteView} {capacity : Option Nat} :
    Emitting F useCrc ifsc (transmitInitialized fuel apdu capacity deadline) := by
  cases capacity with
  | none => exact .throw _
  | some capacity =>
    exact .ite (.throw _) ((Emitting.sendFrom hF).bind fun _ => .receiveResponse hF)

end

end Px4.Card
