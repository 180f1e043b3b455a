import Px4.Tuner.Bus

/-!
# What a driver's function may end with

* `Fair`: an argument error of a bus operation is one that the bridge has reported; so are the
  requests that the bridge does not refuse (`request_fair`, `downstreamWrite_fair`).
* `Refuses`: a computation that ends with a value or refuses its arguments.
* `Sound`: a function ends with a value of which something holds or with an error, and an argument
  error is the bridge's; so do functions in sequence (`Sound.bind`).
-/

namespace Px4.Tuner

open Lib (Program)
open Lib.Oracle (Later)

theorem Reports.later {b b' b'' : Bus} {e : Error} (h : Reports b b' e) (hb : Later b' b'') :
    Reports b b'' e := by
  obtain ⟨new, hlog, entry, hmem, hfailed⟩ := h
  obtain ⟨more, hmore⟩ := hb.log
  exact ⟨new ++ more, by rw [← hmore, hlog, List.append_assoc], entry, List.mem_append_left _ hmem,
    hfailed⟩

theorem Reports.earlier {b b' b'' : Bus} {e : Error} (hb : Later b b') (h : Reports b' b'' e) :
    Reports b b'' e := by
  obtain ⟨new, hlog, entry, hmem, hfailed⟩ := h
  obtain ⟨more, hmore⟩ := hb.log
  exact ⟨more ++ new, by rw [hlog, ← hmore, List.append_assoc], entry, List.mem_append_right _ hmem,
    hfailed⟩

/-- An argument error is the bridge's. -/
structure Fair {α : Type} (b : Bus) (r : Bus × Result α) : Prop where
  later : Later b r.1
  fair : r.2 = .error .invalidArgument → Reports b r.1 .invalidArgument

/-- A question that is answered with the error. -/
theorem reports_ask {b : Bus} {q : I2c} {e : Error} (h : I2c.failed q (b.ask q).2 = some e) :
    Reports b (b.ask q).1 e :=
  ⟨_, Lib.Oracle.ask_log b q, _, List.mem_singleton_self _, h⟩

theorem i2cWrite_fair {address : Nat} {values : List UInt8} (b : Bus) (ha : address ≤ 0x7f)
    (hn : values.length ≠ 0) (hv : values.length ≤ 247) : Fair b (i2cWrite address values b) := by
  unfold i2cWrite
  rw [if_neg (by omega)]
  refine ⟨.ask _ _, fun h => reports_ask ?_⟩
  rw [h]
  rfl

theorem i2cRead_fair {address length : Nat} (b : Bus) (ha : address ≤ 0x7f) (hn : length ≠ 0)
    (hv : length ≤ 251) : Fair b (i2cRead address length b) := by
  unfold i2cRead
  rw [if_neg (by omega)]
  have hreports := @reports_ask b (.read address length)
  have hlater := Later.ask b (.read address length)
  revert hreports hlater
  generalize b.ask (.read address length) = r
  obtain ⟨b', e | values⟩ := r
  · intro hreports hlater
    refine ⟨hlater, fun h => hreports ?_⟩
    cases h
    rfl
  · intro _ hlater
    dsimp only
    split
    · exact ⟨hlater, nofun⟩
    · exact ⟨hlater, nofun⟩

/-- A request that the controller does not refuse. -/
def Accepted : I2c → Prop
  | .write address values => address ≤ 0x7f ∧ values.length ≠ 0 ∧ values.length ≤ 247
  | .read address length => address ≤ 0x7f ∧ length ≠ 0 ∧ length ≤ 251

theorem Accepted.valid {q : I2c} (h : Accepted q) : validRequest q = true := by
  cases q with
  | write address values =>
    obtain ⟨ha, hn, -⟩ := h
    simp [validRequest, ha, List.length_eq_zero_iff.not.1 hn]
  | read address length =>
    obtain ⟨ha, hn, -⟩ := h
    simp [validRequest, ha, hn]

theorem performAll_fair {requests : List I2c} (h : ∀ q ∈ requests, Accepted q) (values : List UInt8)
    (b : Bus) : Fair b (performAll requests values b) := by
  induction requests generalizing values b with
  | nil => exact ⟨.refl b, nofun⟩
  | cons q rest ih =>
    have hq := h q (.head rest)
    have hrest := fun q hq => h q (.tail _ hq)
    cases q with
    | write address bytes =>
      have hfair := i2cWrite_fair b hq.1 hq.2.1 hq.2.2
      unfold performAll
      revert hfair
      generalize i2cWrite address bytes b = r
      obtain ⟨b', e | -⟩ := r
      · exact fun hfair => ⟨hfair.later, fun h => hfair.fair (by cases h; rfl)⟩
      · exact fun hfair => ⟨hfair.later.trans (ih hrest [] b').later,
          fun h => ((ih hrest [] b').fair h).earlier hfair.later⟩
    | read address length =>
      have hfair := i2cRead_fair b hq.1 hq.2.1 hq.2.2
      unfold performAll
      revert hfair
      generalize i2cRead address length b = r
      obtain ⟨b', e | bytes⟩ := r
      · exact fun hfair => ⟨hfair.later, fun h => hfair.fair (by cases h; rfl)⟩
      · exact fun hfair => ⟨hfair.later.trans (ih hrest bytes b').later,
          fun h => ((ih hrest bytes b').fair h).earlier hfair.later⟩

/-- **Requests that the bridge does not refuse.** -/
theorem request_fair {requests : List I2c} (hne : requests ≠ []) (h : ∀ q ∈ requests, Accepted q)
    (b : Bus) : Fair b (request requests b) := by
  have hvalid : requests.all validRequest = true := List.all_eq_true.2 fun q hq => (h q hq).valid
  unfold request
  rw [if_neg (by simpa using hne), if_neg (by simp [hvalid])]
  exact performAll_fair h [] b

theorem downstreamWrite_fair {demod address : Nat} {values : List UInt8} (b : Bus)
    (hd : demod ≤ 0x7f) (ha : address ≤ 0x7f) (hn : values.length ≠ 0) (hv : values.length ≤ 245) :
    Fair b (downstreamWrite demod address values b) := by
  have hfair := @request_fair
    [.write demod (0xfe :: UInt8.ofNat (address <<< 1) :: values)] (List.cons_ne_nil _ _)
    (by simp [Accepted, hd]; omega) b
  unfold downstreamWrite
  rw [if_neg (by omega), if_neg (by omega)]
  split
  · rename_i heq
    rw [heq] at hfair
    exact ⟨hfair.later, fun h => hfair.fair (by cases h; rfl)⟩
  · rename_i heq
    rw [heq] at hfair
    exact ⟨hfair.later, by rintro ⟨⟩⟩

/-! ## Refusals -/

/-- A computation that has failed as a refusal does, or has given a value. -/
def Refuses {α : Type} (x : Except Stop α) : Prop :=
  (∃ a, x = .ok a) ∨ x = .error (.failure .invalidArgument)

theorem Refuses.bind {α β : Type} {x : Except Stop α} {f : α → Except Stop β} (hx : Refuses x)
    (hf : ∀ a, x = .ok a → Refuses (f a)) : Refuses (x >>= f) := by
  obtain ⟨a, rfl⟩ | rfl := hx
  · exact hf a rfl
  · exact .inr rfl

theorem Refuses.ok {α : Type} (a : α) : Refuses (.ok a) := .inl ⟨a, rfl⟩

theorem Refuses.refuse (p : Prop) [Decidable p] : Refuses (refuse p) := by
  unfold Px4.refuse
  split
  · exact .inr rfl
  · exact .ok ()

/-! ## Drives -/

namespace Drive

variable {σ α β : Type}

@[simp] theorem exec_fail (e : Error) (s : σ × Bus) :
    (fail e : Drive σ α).exec s = (.error (.failure e), s) := rfl

@[simp] theorem exec_fields (s : σ × Bus) : (fields : Drive σ σ).exec s = (.ok s.1, s) := rfl

/-- The end of a drive that a result of the bus gives. -/
def ending : Result α → Drive σ α
  | .ok a => pure a
  | .error e => fail e

theorem exec_onBus (f : Bus → Bus × Result α) (s : σ × Bus) :
    (onBus f).exec s = match f s.2 with
      | (b, .ok a) => (.ok a, s.1, b)
      | (b, .error e) => (.error (.failure e), s.1, b) := by
  have hexec : (onBus f).exec s = (ending (f s.2).2 : Drive σ α).exec (s.1, (f s.2).1) := rfl
  rw [hexec]
  rcases f s.2 with ⟨b, e | a⟩
  · rfl
  · rfl

end Drive

/-! ## Sound ends -/

variable {σ α β : Type}

/-- From `s` the function ends with a value of which `Q` holds, or with an error; an argument error
is the bridge's. -/
structure Sound (s : σ × Bus) (x : Drive σ α) (Q : α → σ → Prop) : Prop where
  later : Later s.2 (x.exec s).2.2
  defined : (x.exec s).1 ≠ .error .undefined
  fair : (x.exec s).1 = .error (.failure .invalidArgument) →
    Reports s.2 (x.exec s).2.2 .invalidArgument
  returns : ∀ a, (x.exec s).1 = .ok a → Q a (x.exec s).2.1

namespace Sound

variable {s : σ × Bus} {x : Drive σ α} {Q R : α → σ → Prop}

theorem pure {a : α} (h : Q a s.1) : Sound s (Pure.pure a) Q where
  later := .refl _
  defined := nofun
  fair := nofun
  returns := by
    intro a' ha
    cases ha
    exact h

theorem fields {Q : σ → σ → Prop} (h : Q s.1 s.1) : Sound s Drive.fields Q where
  later := .refl _
  defined := nofun
  fair := nofun
  returns := by
    intro a' ha
    cases ha
    exact h

theorem assign {f : σ → σ} {Q : Unit → σ → Prop} (h : Q () (f s.1)) :
    Sound s (Drive.assign f) Q where
  later := .refl _
  defined := nofun
  fair := nofun
  returns := fun _ _ => h

/-- A computation that gives a value. -/
theorem lift {e : Except Stop α} {a : α} (he : e = .ok a) (h : Q a s.1) :
    Sound s (Drive.lift e) Q := by
  subst he
  exact pure h

theorem onBus {f : Bus → Bus × Result α} (hf : ∀ b, Fair b (f b)) (h : ∀ a, Q a s.1) :
    Sound s (Drive.onBus f) Q := by
  have hfair := hf s.2
  have hexec := Drive.exec_onBus f s
  revert hfair hexec
  rcases f s.2 with ⟨b, e | a⟩
  · intro hfair hexec
    refine ⟨hexec ▸ hfair.later, by simp [hexec], ?_, by simp [hexec]⟩
    intro he
    rw [hexec] at he ⊢
    exact hfair.fair (by simpa using he)
  · intro hfair hexec
    exact ⟨hexec ▸ hfair.later, by simp [hexec], by simp [hexec], fun _ _ => hexec ▸ h _⟩

/-- **In sequence.** -/
theorem bind {f : α → Drive σ β} {P : β → σ → Prop} (hx : Sound s x Q)
    (hf : ∀ a b fields, Q a fields → Sound (fields, b) (f a) P) : Sound s (x >>= f) P := by
  have hexec := Program.exec_bind x f s
  have hlater := hx.later
  have hdefined := hx.defined
  have hfair := hx.fair
  have hreturns := hx.returns
  revert hexec hlater hdefined hfair hreturns
  rcases x.exec s with ⟨stop | a, fields, b⟩
  · intro hexec hlater hdefined hfair _
    exact ⟨hexec ▸ hlater, hexec ▸ fun h => hdefined (by simpa using h),
      hexec ▸ fun h => hfair (by simpa using h), by simp [hexec]⟩
  · intro hexec hlater _ _ hreturns
    have h := hf a b fields (hreturns a rfl)
    exact ⟨hexec ▸ hlater.trans h.later, hexec ▸ h.defined, hexec ▸ fun he =>
      .earlier hlater (h.fair he),
      hexec ▸ h.returns⟩

/-- Something that is done whatever came before it. -/
theorem closing {x y : Drive σ Unit} {Q R : Unit → σ → Prop} (hx : Sound s x Q)
    (hy : ∀ fields b, Sound (fields, b) y R) : Sound s (Drive.closing x y) R := by
  have hexec : (Drive.closing x y).exec s = match x.exec s with
      | (.ok (), s') => y.exec s'
      | (.error stop, s') => (.error stop, (y.exec s').2) := by
    unfold Drive.closing Program.exec
    rw [ExceptT.run_mk, StateT.run_bind]
    rcases x.run.run s with ⟨stop | ⟨⟩, s'⟩
    · rfl
    · rfl
  have hlater := hx.later
  have hdefined := hx.defined
  have hfair := hx.fair
  revert hexec hlater hdefined hfair
  rcases x.exec s with ⟨stop | ⟨⟩, fields, b⟩
  · intro hexec hlater hdefined hfair
    have hlast := (hy fields b).later
    refine ⟨hexec ▸ hlater.trans hlast, hexec ▸ fun h => hdefined (by simpa using h),
      hexec ▸ fun h => (hfair (by simpa using h)).later hlast, by simp [hexec]⟩
  · intro hexec hlater _ _
    have h := hy fields b
    exact ⟨hexec ▸ hlater.trans h.later, hexec ▸ h.defined, hexec ▸ fun he =>
      .earlier hlater (h.fair he),
      hexec ▸ h.returns⟩

theorem mono (hx : Sound s x Q) (h : ∀ a fields, Q a fields → R a fields) : Sound s x R :=
  ⟨hx.later, hx.defined, hx.fair, fun a ha => h _ _ (hx.returns a ha)⟩

end Sound

/-- An argument error of a function, from `s`, is one that the bridge has reported. -/
def OnlyReported (x : Drive σ α) (s : σ × Bus) : Prop :=
  (x.exec s).1 = .error (.failure .invalidArgument) → Reports s.2 (x.exec s).2.2 .invalidArgument

/-- Registers that the tuner has are written, up to errors of the bridge. -/
theorem writeSpan_sound {demod : σ → Fin 128} {address registers : Nat}
    {regs : Regs} {reg count : Nat} {s : σ × Bus} (haddress : address ≤ 0x7f)
    (hregisters : registers ≤ 244) (hreg : reg < registers) (hcount : count ≠ 0)
    (hfit : count ≤ registers - reg) :
    Sound s (writeSpan demod address registers regs reg count) fun _ fields => fields = s.1 := by
  unfold writeSpan
  rw [if_neg (by omega)]
  refine .bind (Q := fun _ fields => fields = s.1) (.fields rfl) fun chip b fields hfields => ?_
  refine .onBus (fun b => downstreamWrite_fair b (by omega) haddress ?_ ?_) fun _ => hfields
  · simp
  · simp only [List.length_cons, Regs.span_length]
    omega

end Px4.Tuner
