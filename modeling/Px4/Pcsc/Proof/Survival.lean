import Px4.Pcsc.Proof.IfdAdapter

/-!
# Connections of the PC/SC reader that last

* `Kept`: a connection that is kept. `Round`: what a call makes of it, unless it ends it on purpose.
* `Kept.survives_iff`: runs of such calls.
* `connection_survival`: the generation that is cached when a card is connected decides.
-/

namespace Px4.Pcsc

open Lib (Program)
open Lib.Oracle (Later)
open Lib.Program (After after_ite)

/-! ## Connections -/

/-- A status reports the card, with generation `g`. -/
def Reports (g : UInt64) : Sigma Ask.Answer → Prop
  | ⟨.status _, result⟩ =>
    ∃ status, result = .ok status ∧ status.present = true ∧ status.readerGeneration = g
  | _ => True

/-- A transmission that fails has lost neither the channel nor the card: the adapter gives a
connection up on purpose otherwise. -/
def Harmless : Sigma Ask.Answer → Prop
  | ⟨.transmit _ _ _ _, .error e⟩ => channelFailure e = false ∧ e ≠ .noCard ∧ e ≠ .cardRemoved
  | _ => True

/-- A call that does not end a connection on purpose: a power-down does, and a reset makes another
one. -/
def Call.Keeps : Call → Prop
  | .closeChannel _ => False
  | .power _ action _ _ => action = .powerUp
  | _ => True

/-- A call that asks the client for the status. -/
def Call.AsksStatus : Call → Prop
  | .presence lun => lun = 0
  | .getCapability lun tag _ _ => lun = 0 ∧ (tag = kAttrIccPresence ∨ tag = kAttrIccInterfaceStatus)
  | _ => False

/-- The client and the handle are there, and what is transmitted reaches the client. -/
structure Connected (client : Nat) (handle : UInt64) (w : World) : Prop where
  owner : w.adapter.client = some client
  held : w.adapter.cardHandle = handle
  reaches : ∀ apdu response, apdu.data ≠ none → apdu.size ≠ 0 → apdu.size ≤ kIfdApduMaxLength →
    response.present = true → response.size ≠ 0 →
    ∃ result, w.clients.log ++ [⟨.transmit client handle apdu.bytes response.size, result⟩] <+:
      ((transmit 0 kIfdTransmitProtocolT1 apdu response).exec w).2.clients.log

/-- The connection survives the calls: it is the same one before them and after each of them. -/
def Survives (calls : List Call) (w : World) : Prop :=
  ∃ client, ∀ done, done <+: calls → Connected client w.adapter.cardHandle (runCalls done w)

/-! ## Clients are only asked more -/

/-- What the clients have been asked stays in the log. -/
def Goes {α : Type} (x : Ifd α) : Prop := ∀ w, Ends x w fun _ w' => Later w.clients w'.clients

section
variable {α β : Type}

theorem goes_pure (a : α) : Goes (pure a) := fun w => .refl w.clients

theorem goes_get : Goes (get : Ifd World) := fun w => .refl w.clients

theorem goes_ask (q : Ask) : Goes (ask q) := fun w => .ask w.clients q

theorem goes_update (f : IfdAdapter → IfdAdapter) : Goes (update f) := fun w => .refl w.clients

theorem goes_bind {x : Ifd α} {f : α → Ifd β} (hx : Goes x) (hf : ∀ a, Goes (f a)) :
    Goes (x >>= f) := by
  intro w
  unfold Ends
  rw [Program.after_bind]
  refine (hx w).mono (fun a w₁ h₁ => ?_) fun e => e.elim
  exact (hf a w₁).mono (fun _ _ h₂ => h₁.trans h₂) fun e => e.elim

theorem goes_ite {c : Prop} [Decidable c] {x y : Ifd α} (hx : Goes x) (hy : Goes y) :
    Goes (if c then x else y) := by
  split
  · exact hx
  · exact hy

end

theorem invalidateClient_goes : Goes invalidateClient := by
  unfold invalidateClient
  refine goes_bind goes_get fun w => ?_
  cases w.adapter.client with
  | none => exact goes_update _
  | some client => exact goes_bind (goes_ask _) fun _ => goes_update _

theorem fail_goes (e : Error) (operation : IfdOperation) : Goes (fail e operation) := by
  unfold fail
  refine goes_ite (goes_bind (goes_update _) fun _ => goes_pure _) <| goes_ite ?_ (goes_pure _)
  exact goes_bind invalidateClient_goes fun _ => goes_pure _

theorem ensureClient_goes : Goes ensureClient := by
  unfold ensureClient
  refine goes_bind goes_get fun w => goes_ite (goes_pure _) ?_
  cases w.adapter.client with
  | some client => exact goes_pure _
  | none =>
    refine goes_bind (goes_ask _) fun answer => ?_
    cases answer with
    | error e => exact goes_bind (goes_update _) fun _ => goes_pure _
    | ok u => exact goes_bind (fun w => .refl w.clients) fun _ => goes_pure _

theorem refreshStatus_goes : Goes refreshStatus := by
  unfold refreshStatus
  refine goes_bind goes_get fun w => ?_
  cases w.adapter.client with
  | none => exact goes_pure _
  | some client =>
    refine goes_bind (goes_ask _) fun answer => ?_
    cases answer with
    | error e => exact goes_pure _
    | ok status =>
      refine goes_bind goes_get fun w => goes_ite (goes_ite ?_ ?_) ?_
      · exact goes_bind invalidateClient_goes fun _ =>
          goes_bind (goes_update _) fun _ => goes_pure _
      · exact goes_bind (goes_update _) fun _ => goes_bind (goes_update _) fun _ => goes_pure _
      · exact goes_bind (goes_update _) fun _ => goes_pure _

theorem statusCapability_goes (value : IfdCardStatus → IfdAdapter → Bool) (output : MutableByteView)
    (length : Nat) : Goes (statusCapability value output length) := by
  unfold statusCapability
  refine goes_bind ensureClient_goes fun result => ?_
  cases result with
  | error e => exact goes_pure _
  | ok u =>
    refine goes_bind refreshStatus_goes fun result => ?_
    cases result with
    | error e => exact goes_bind (fail_goes _ _) fun _ => goes_pure _
    | ok status => exact goes_bind goes_get fun _ => goes_pure _

theorem powerOrReset_goes (forceReset : Bool) : Goes (powerOrReset forceReset) := by
  have hconnected (result : IfdCardConnectResult) : Goes (connected result) :=
    goes_bind (goes_update _) fun _ => goes_pure _
  unfold powerOrReset
  refine goes_bind goes_get fun w => ?_
  dsimp only
  cases w.adapter.client with
  | none => exact goes_pure _
  | some client =>
    refine goes_ite ?_ (goes_ite ?_ (goes_pure _))
    · refine goes_bind (goes_ask _) fun answer => ?_
      cases answer with
      | error e => exact goes_bind invalidateClient_goes fun _ => goes_pure _
      | ok result => exact hconnected result
    · refine goes_bind (goes_ask _) fun answer => ?_
      cases answer with
      | error e => exact goes_pure _
      | ok result => exact hconnected result

theorem powerUp_goes (lun : UInt64) (atr : MutableByteView) (length : Nat) :
    Goes (power lun .powerUp atr length) := by
  unfold power
  refine goes_bind goes_get fun w => ?_
  dsimp only
  rw [if_neg (show IfdPowerAction.powerUp ≠ .powerDown from nofun)]
  refine goes_ite (goes_pure _) <| goes_bind ensureClient_goes fun result => ?_
  cases result with
  | error e => exact goes_pure _
  | ok u =>
    refine goes_bind (powerOrReset_goes _) fun result => ?_
    cases result with
    | error e => exact goes_bind (fail_goes _ _) fun _ => goes_pure _
    | ok result => exact goes_bind goes_get fun _ => goes_pure _

theorem presence_goes (lun : UInt64) : Goes (presence lun) := by
  unfold presence
  refine goes_bind goes_get fun w => goes_ite (goes_pure _) <|
    goes_bind ensureClient_goes fun result => ?_
  cases result with
  | error e => exact goes_bind (fail_goes _ _) fun _ => goes_pure _
  | ok u =>
    refine goes_bind refreshStatus_goes fun result => ?_
    cases result with
    | error e => exact goes_bind (fail_goes _ _) fun _ => goes_pure _
    | ok status => exact goes_pure _

theorem transmit_goes (lun : UInt64) (protocol : UInt32) (apdu : ByteView)
    (response : MutableByteView) :
    Goes (transmit lun protocol apdu response) := by
  unfold transmit
  refine goes_bind goes_get fun w => goes_ite (goes_pure _) <|
    goes_bind ensureClient_goes fun result => ?_
  cases result with
  | error e => exact goes_pure _
  | ok u =>
    refine goes_bind goes_get fun w => goes_ite (goes_pure _) <| goes_ite (goes_pure _) <|
      goes_ite (goes_pure _) ?_
    cases w.adapter.client with
    | none => exact goes_pure _
    | some client =>
      refine goes_bind (goes_ask _) fun answer => ?_
      cases answer with
      | error e => exact goes_bind (fail_goes _ _) fun _ => goes_pure _
      | ok length => exact goes_pure _

theorem createChannelByName_goes (lun : UInt64) (deviceName : Option (List UInt8)) :
    Goes (createChannelByName lun deviceName) := by
  unfold createChannelByName
  cases parseIfdDeviceName deviceName with
  | error e => exact goes_pure _
  | ok endpoint =>
    refine goes_ite (goes_pure _) <| goes_bind goes_get fun w => goes_ite (goes_pure _) <|
      goes_bind (goes_update _) fun _ => goes_bind ensureClient_goes fun result => ?_
    cases result with
    | error e => exact goes_pure _
    | ok u =>
      refine goes_bind refreshStatus_goes fun result => ?_
      cases result with
      | error e => exact goes_bind invalidateClient_goes fun _ => goes_pure _
      | ok status => exact goes_pure _

theorem getCapability_goes (lun : UInt64) (tag : UInt32) (output : MutableByteView) (length : Nat) :
    Goes (getCapability lun tag output length) := by
  have hpure (reply : Reply) : Goes (pure reply) := goes_pure reply
  unfold getCapability
  refine goes_bind goes_get fun w => ?_
  exact goes_ite (hpure _) <| goes_ite (hpure _) <| goes_ite (hpure _) <| goes_ite (hpure _) <|
    goes_ite (hpure _) <| goes_ite (hpure _) <| goes_ite (hpure _) <| goes_ite (hpure _) <|
    goes_ite (hpure _) <| goes_ite (hpure _) <| goes_ite (hpure _) <| goes_ite (hpure _) <|
    goes_ite (hpure _) <| goes_ite (statusCapability_goes _ _ _) <|
    goes_ite (statusCapability_goes _ _ _) (hpure _)

theorem Call.goes {call : Call} (hkeeps : call.Keeps) : Goes call.run := by
  cases call with
  | createChannelByName lun deviceName => exact createChannelByName_goes lun deviceName
  | createChannel lun => exact goes_pure _
  | closeChannel lun => exact hkeeps.elim
  | getCapability lun tag output length => exact getCapability_goes lun tag output length
  | setCapability lun tag value =>
    exact goes_bind goes_get fun w => goes_ite (goes_pure _) <| goes_ite (goes_pure _) <|
      goes_ite (goes_pure _) (goes_pure _)
  | setProtocol lun protocol flags pts1 =>
    refine goes_bind goes_get fun w => ?_
    exact goes_ite (goes_pure _) <| goes_ite (goes_pure _) <| goes_ite (goes_pure _) <|
      goes_ite (goes_pure _) <| goes_ite (goes_pure _) <| goes_ite (goes_pure _) (goes_pure _)
  | power lun action atr length =>
    obtain rfl : action = .powerUp := hkeeps
    exact powerUp_goes lun atr length
  | transmit lun protocol apdu response => exact transmit_goes lun protocol apdu response
  | control lun => exact goes_bind goes_get fun _ => goes_pure _
  | presence lun => exact presence_goes lun

theorem runCalls_later {calls : List Call} (hkeeps : ∀ call ∈ calls, call.Keeps) (w : World) :
    Later w.clients (runCalls calls w).clients := by
  induction calls generalizing w with
  | nil => exact .refl _
  | cons call calls ih =>
    have hcall := ends_exec (Call.goes (hkeeps call List.mem_cons_self) w)
    exact hcall.trans (ih (fun c hc => hkeeps c (List.mem_cons_of_mem _ hc)) _)

/-! ## Connections that are kept -/

/-- A connection that is kept. -/
structure Kept (client : Nat) (handle : UInt64) (w : World) : Prop where
  configured : w.adapter.channelConfigured = true
  connected : handle ≠ 0
  owner : w.adapter.client = some client
  held : w.adapter.cardHandle = handle
  present : w.adapter.present = true
  powered : w.adapter.powered = true

/-- A status with generation `g` is one that the adapter expects. -/
def Expected (w : World) (g : UInt64) : Prop :=
  w.adapter.readerGeneration = 0 ∨ w.adapter.readerGeneration = g

/-- What the answer to the question for the status makes of a connection that is kept: it stays if
the generation is expected, and the client is dropped if it is not. -/
structure Refreshed (client : Nat) (handle : UInt64) (w : World)
    (result : Result IfdCardStatus) (w' : World) :
    Prop where
  added : w.clients.log ++ [⟨.status client, result⟩] <+: w'.clients.log
  kept : ∀ status, result = .ok status → status.present = true →
    Expected w status.readerGeneration →
    Kept client handle w' ∧ w'.adapter.readerGeneration = status.readerGeneration ∧
      w'.clients.log = w.clients.log ++ [⟨.status client, result⟩]
  dropped : ∀ status, result = .ok status → ¬Expected w status.readerGeneration →
    w'.adapter.client = none

/-- A call that does not end a connection on purpose: it asks the client nothing, or for the status,
or to transmit. -/
inductive Round (client : Nat) (handle : UInt64) (call : Call) (w w' : World) : Prop
  | idle (asks : ¬call.AsksStatus) (same : w' = w)
  | status (asks : call.AsksStatus) (result : Result IfdCardStatus)
      (refreshed : Refreshed client handle w result w')
  | transmit (asks : ¬call.AsksStatus) (apdu : List UInt8) (capacity : Nat) (result : Result Nat)
      (added : w.clients.log ++ [⟨.transmit client handle apdu capacity, result⟩] <+:
        w'.clients.log)
      (kept : Harmless ⟨.transmit client handle apdu capacity, result⟩ →
        w' = w.asked (.transmit client handle apdu capacity) result)
      (lost : ¬Harmless ⟨.transmit client handle apdu capacity, result⟩ →
        w'.adapter.client = none ∨ w'.adapter.present = false)

variable {client : Nat} {handle : UInt64} {w w' : World}

theorem Kept.asked (h : Kept client handle w) {q : Ask} {a : q.Answer} :
    Kept client handle (w.asked q a) where
  configured := h.configured
  connected := h.connected
  owner := h.owner
  held := h.held
  present := h.present
  powered := h.powered

/-- `ensure_client` does nothing where there is a client. -/
theorem after_owned {α : Type} {f : Result Unit → Ifd α}
    (hconfigured : w.adapter.channelConfigured = true) (howner : w.adapter.client = some client)
    {Q : α → World → Prop} {R : Empty → World → Prop}
    (hQ : After (f (.ok ())) w Q R) : After (ensureClient >>= f) w Q R := by
  unfold ensureClient
  rw [Program.after_bind, Program.after_bind, Program.after_get]
  dsimp only
  rw [if_neg (by simp [hconfigured]), howner]
  exact hQ

theorem Refreshed.mono {w'' : World} {result : Result IfdCardStatus}
    (h : Refreshed client handle w result w') (hlater : Later w'.clients w''.clients)
    (hok : ∀ status, result = .ok status → w'' = w') :
    Refreshed client handle w result w'' where
  added := h.added.trans hlater.log
  kept := fun status hstatus => by
    rw [hok status hstatus]
    exact h.kept status hstatus
  dropped := fun status hstatus => by
    rw [hok status hstatus]
    exact h.dropped status hstatus

theorem invalidateClient_drops (w : World) :
    Ends invalidateClient w fun _ w' => w'.adapter.client = none := by
  unfold invalidateClient Ends
  rw [Program.after_bind, Program.after_get]
  cases w.adapter.client with
  | none => exact rfl
  | some client =>
    dsimp only
    rw [Program.after_bind]
    exact ends_ask fun _ _ => rfl

/-- **`refresh_status`**: the generation decides. -/
theorem refreshStatus_refreshed (h : Kept client handle w) :
    Ends refreshStatus w fun result w' => Refreshed client handle w result w' := by
  unfold refreshStatus Ends
  rw [Program.after_bind, Program.after_get, h.owner]
  dsimp only
  rw [Program.after_bind]
  refine ends_ask fun answer _ => ?_
  cases answer with
  | error e => exact ⟨List.prefix_refl _, nofun, nofun⟩
  | ok status =>
    dsimp only
    rw [Program.after_bind, Program.after_get, asked_adapter]
    split
    · next hchanged =>
      -- the client is dropped, since there is a handle
      rw [if_pos (by rw [h.held]; exact h.connected), Program.after_bind]
      refine ((invalidateClient_goes _).and (invalidateClient_drops _)).mono ?_ fun e => e.elim
      refine fun _ w₁ ⟨hlater, hdropped⟩ => ⟨hlater.log, ?_, fun _ _ _ => hdropped⟩
      rintro status' hstatus hpresent hexpected
      obtain rfl := Except.ok.inj hstatus
      rcases hchanged with habsent | ⟨hzero, hother⟩
      · exact nomatch hpresent.symm.trans habsent
      · exact absurd hexpected (not_or.2 ⟨hzero, hother⟩)
    · next hsame =>
      rw [not_or, Bool.not_eq_false, not_and_or, not_not, not_not] at hsame
      have hkept := h.asked (q := .status client) (a := .ok status)
      rw [Program.after_bind, after_update]
      refine ⟨List.prefix_refl _, ?_, fun status' hstatus hunexpected => ?_⟩
      · rintro status' hstatus - -
        obtain rfl := Except.ok.inj hstatus
        refine ⟨?_, ?_, rfl⟩
        · split
          · exact ⟨hkept.configured, hkept.connected, hkept.owner, hkept.held, hsame.1, rfl⟩
          · exact ⟨hkept.configured, hkept.connected, hkept.owner, hkept.held,
              hsame.1, hkept.powered⟩
        · split
          · rfl
          · rfl
      · obtain rfl := Except.ok.inj hstatus
        exact absurd hsame.2 hunexpected

/-- A function that asks for the status, and leaves the connection as it then is if there is one. -/
theorem after_refreshed {α : Type} (h : Kept client handle w) {f : Result IfdCardStatus → Ifd α}
    (herror : ∀ e, Goes (f (.error e)))
    (hok : ∀ status w₁, Ends (f (.ok status)) w₁ fun _ w' => w' = w₁) :
    Ends (refreshStatus >>= f) w fun _ w' => ∃ result, Refreshed client handle w result w' := by
  unfold Ends
  rw [Program.after_bind]
  refine (refreshStatus_refreshed h).mono (fun result w₁ h₁ => ?_) fun e => e.elim
  cases result with
  | error e =>
    refine (herror e w₁).mono (fun _ w' hlater => ?_) fun e => e.elim
    exact ⟨_, h₁.mono hlater nofun⟩
  | ok status =>
    refine (hok status w₁).mono (fun _ w' hsame => ?_) fun e => e.elim
    exact ⟨_, hsame ▸ h₁⟩

theorem statusCapability_refreshed (h : Kept client handle w)
    (value : IfdCardStatus → IfdAdapter → Bool) (output : MutableByteView) (length : Nat) :
    Ends (statusCapability value output length) w fun _ w' =>
    ∃ result, Refreshed client handle w result w' := by
  unfold statusCapability Ends
  refine after_owned h.configured h.owner (after_refreshed h (fun e => ?_) fun status w₁ => rfl)
  exact goes_bind (fail_goes e .status) fun _ => goes_pure _

theorem presence_refreshed (h : Kept client handle w) :
    Ends (presence 0) w fun _ w' => ∃ result, Refreshed client handle w result w' := by
  unfold presence Ends
  rw [Program.after_bind, Program.after_get, if_neg (by simp [h.configured])]
  refine after_owned h.configured h.owner (after_refreshed h (fun e => ?_) fun status w₁ => rfl)
  exact goes_bind (fail_goes e .status) fun _ => goes_pure _

/-- What is left of a connection after `fail`. -/
theorem fail_transmit (w : World) (e : Error) :
    Ends (fail e .transmit) w fun _ w' =>
      (channelFailure e = false ∧ e ≠ .noCard ∧ e ≠ .cardRemoved → w' = w) ∧
        (¬(channelFailure e = false ∧ e ≠ .noCard ∧ e ≠ .cardRemoved) →
          w'.adapter.client = none ∨ w'.adapter.present = false) := by
  unfold fail Ends
  split
  · next hcard => exact ⟨fun he => absurd hcard (not_or.2 he.2), fun _ => .inr rfl⟩
  · next hcard =>
    dsimp only
    split
    · next hchannel =>
      rw [Program.after_bind]
      refine (invalidateClient_drops w).mono (fun _ _ hdropped => ?_) fun e => e.elim
      exact ⟨fun he => Bool.noConfusion (hchannel.symm.trans he.1), fun _ => .inl hdropped⟩
    · next hchannel =>
      exact ⟨fun _ => rfl, fun he => absurd ⟨Bool.not_eq_true _ ▸ hchannel, not_or.1 hcard⟩ he⟩

theorem transmit_round (h : Kept client handle w) (lun : UInt64)
    (protocol : UInt32) (apdu : ByteView) (response : MutableByteView) :
    Ends (transmit lun protocol apdu response) w fun _ w' =>
      Round client handle (.transmit lun protocol apdu response) w w' := by
  have hidle : Round client handle (.transmit lun protocol apdu response) w w := .idle id rfl
  unfold transmit Ends
  rw [Program.after_bind, Program.after_get]
  refine after_ite hidle <| after_owned h.configured h.owner ?_
  dsimp only
  rw [Program.after_bind, Program.after_get]
  refine after_ite hidle <| after_ite hidle <| after_ite hidle ?_
  rw [h.owner, h.held]
  dsimp only
  rw [Program.after_bind]
  refine ends_ask fun answer _ => ?_
  cases answer with
  | error e =>
    dsimp only
    rw [Program.after_bind]
    refine ((fail_goes e .transmit _).and (fail_transmit _ e)).mono ?_ fun e => e.elim
    exact fun _ w₁ ⟨hlater, hkept, hlost⟩ =>
      .transmit id apdu.bytes response.size _ hlater.log hkept hlost
  | ok length =>
    exact .transmit id apdu.bytes response.size _ (List.prefix_refl _) (fun _ => rfl) fun hno =>
      absurd trivial hno

theorem getCapability_round (h : Kept client handle w) (lun : UInt64) (tag : UInt32)
    (output : MutableByteView) (length : Nat) :
    Ends (getCapability lun tag output length) w fun _ w' =>
      Round client handle (.getCapability lun tag output length) w w' := by
  by_cases hasks : (Call.getCapability lun tag output length).AsksStatus
  · have hstatus (value : IfdCardStatus → IfdAdapter → Bool) :
        Ends (statusCapability value output length) w fun _ w' =>
          Round client handle (.getCapability lun tag output length) w w' :=
      (statusCapability_refreshed h value output length).mono
        (fun _ _ ⟨result, hr⟩ => .status hasks result hr) fun e => e.elim
    obtain ⟨rfl, rfl | rfl⟩ := hasks
    · unfold getCapability Ends
      rw [Program.after_bind, Program.after_get, if_neg (by simp [h.configured])]
      iterate 12 rw [if_neg (by decide)]
      rw [if_pos rfl]
      exact hstatus _
    · unfold getCapability Ends
      rw [Program.after_bind, Program.after_get, if_neg (by simp [h.configured])]
      iterate 13 rw [if_neg (by decide)]
      rw [if_pos rfl]
      exact hstatus _
  · have hidle : Round client handle (.getCapability lun tag output length) w w := .idle hasks rfl
    unfold getCapability Ends
    rw [Program.after_bind, Program.after_get]
    by_cases hready : lun ≠ 0 ∨ w.adapter.channelConfigured = false
    · rw [if_pos hready]
      exact hidle
    · have htags : tag ≠ kAttrIccPresence ∧ tag ≠ kAttrIccInterfaceStatus :=
        not_or.1 fun htag => hasks ⟨not_not.1 fun hlun => hready (.inl hlun), htag⟩
      rw [if_neg hready, if_neg htags.1, if_neg htags.2]
      exact after_ite hidle <| after_ite hidle <| after_ite hidle <| after_ite hidle <|
        after_ite hidle <| after_ite hidle <| after_ite hidle <|
        after_ite hidle <| after_ite hidle <|
        after_ite hidle <| after_ite hidle <| after_ite hidle hidle

/-- A power-up finds the card powered. -/
theorem powerUp_round (h : Kept client handle w) (lun : UInt64)
    (atr : MutableByteView) (length : Nat) :
    Ends (power lun .powerUp atr length) w fun _ w' =>
      Round client handle (.power lun .powerUp atr length) w w' := by
  have hidle : Round client handle (.power lun .powerUp atr length) w w := .idle id rfl
  unfold power Ends
  rw [Program.after_bind, Program.after_get]
  dsimp only
  rw [if_neg (show IfdPowerAction.powerUp ≠ .powerDown from nofun)]
  refine after_ite hidle <| after_owned h.configured h.owner ?_
  dsimp only
  unfold powerOrReset
  rw [Program.after_bind, Program.after_bind, Program.after_get]
  dsimp only
  rw [h.owner]
  dsimp only
  rw [if_neg (by rw [h.held]; exact h.connected), if_neg (by simp [h.powered])]
  exact hidle

/-- **What a call makes of a connection that is kept**, unless it ends it on purpose. -/
theorem Kept.round (h : Kept client handle w) {call : Call} (hkeeps : call.Keeps) :
    Round client handle call w (call.run.exec w).2 := by
  refine @ends_exec _ _ w (Round client handle call w) ?_
  cases call with
  | createChannelByName lun deviceName =>
    have hidle : Round client handle (.createChannelByName lun deviceName) w w := .idle id rfl
    show Ends (createChannelByName lun deviceName) w _
    unfold createChannelByName Ends
    cases parseIfdDeviceName deviceName with
    | error e => exact hidle
    | ok endpoint =>
      refine after_ite hidle ?_
      rw [Program.after_bind, Program.after_get, if_pos h.configured]
      exact hidle
  | createChannel lun => exact .idle id rfl
  | closeChannel lun => exact hkeeps.elim
  | getCapability lun tag output length => exact getCapability_round h lun tag output length
  | setCapability lun tag value =>
    have hidle : Round client handle (.setCapability lun tag value) w w := .idle id rfl
    show Ends (setCapability lun tag value) w _
    unfold setCapability Ends
    rw [Program.after_bind, Program.after_get]
    exact after_ite hidle <| after_ite hidle <| after_ite hidle hidle
  | setProtocol lun protocol flags pts1 =>
    have hidle : Round client handle (.setProtocol lun protocol flags pts1) w w := .idle id rfl
    show Ends (setProtocol lun protocol flags pts1) w _
    unfold setProtocol Ends
    rw [Program.after_bind, Program.after_get]
    exact after_ite hidle <| after_ite hidle <| after_ite hidle <| after_ite hidle <|
      after_ite hidle <| after_ite hidle hidle
  | power lun action atr length =>
    obtain rfl : action = .powerUp := hkeeps
    exact powerUp_round h lun atr length
  | transmit lun protocol apdu response => exact transmit_round h lun protocol apdu response
  | control lun => exact .idle id rfl
  | presence lun =>
    by_cases hlun : lun = 0
    · subst hlun
      exact (presence_refreshed h).mono (fun _ _ ⟨result, hr⟩ => .status rfl result hr)
        fun e => e.elim
    · show Ends (presence lun) w _
      unfold presence Ends
      rw [Program.after_bind, Program.after_get, if_pos (.inl hlun)]
      exact .idle hlun rfl

/-! ## Runs -/

/-- What is transmitted through a connection that is kept reaches its client. -/
theorem Kept.connection (h : Kept client handle w) : Connected client handle w := by
  refine ⟨h.owner, h.held, fun apdu response hdata hsize hmax hpresent hresponse => ?_⟩
  have hready : ¬(w.adapter.present = false ∨ w.adapter.powered = false ∨
      w.adapter.cardHandle = 0) := by
    simp [h.present, h.powered, h.held, h.connected]
  have hvalid : ¬(apdu.data = none ∨ apdu.size = 0 ∨ kIfdApduMaxLength < apdu.size ∨
      response.present = false ∨ response.size = 0) := by
    simp [hdata, hsize, hmax, hpresent, hresponse]
  refine @ends_exec _ _ w (fun w' => ∃ result, w.clients.log ++
    [⟨.transmit client handle apdu.bytes response.size, result⟩] <+: w'.clients.log) ?_
  unfold transmit Ends
  rw [Program.after_bind, Program.after_get, if_neg (by simp [h.configured])]
  refine after_owned h.configured h.owner ?_
  dsimp only
  rw [Program.after_bind, Program.after_get, if_neg (by simp), if_neg hready,
    if_neg hvalid, h.owner, h.held]
  dsimp only
  rw [Program.after_bind]
  refine ends_ask fun answer _ => ?_
  cases answer with
  | error e =>
    dsimp only
    rw [Program.after_bind]
    exact (fail_goes e .transmit _).mono (fun _ _ hlater => ⟨_, hlater.log⟩) fun e => e.elim
  | ok length => exact ⟨_, List.prefix_refl _⟩

/-- A transmission without a card asks the client nothing. -/
theorem transmit_unpowered (howner : w.adapter.client = some client)
    (hlost : w.adapter.present = false ∨ w.adapter.powered = false ∨ w.adapter.cardHandle = 0)
    (apdu : ByteView) (response : MutableByteView) :
    Ends (transmit 0 kIfdTransmitProtocolT1 apdu response) w fun _ w' => w' = w := by
  unfold transmit Ends
  rw [Program.after_bind, Program.after_get]
  cases hconfigured : w.adapter.channelConfigured with
  | false => exact rfl
  | true =>
    rw [if_neg (by simp)]
    refine after_owned hconfigured howner ?_
    dsimp only
    rw [Program.after_bind, Program.after_get, if_neg (by simp), if_pos hlost]
    exact rfl

theorem Connected.not_lost (h : Connected client handle w) :
    ¬(w.adapter.present = false ∨ w.adapter.powered = false ∨ w.adapter.cardHandle = 0) := by
  intro hlost
  obtain ⟨result, hlog⟩ := h.reaches (ByteView.of [0]) ⟨true, 2⟩ nofun nofun (by decide) rfl nofun
  rw [ends_exec (transmit_unpowered h.owner hlost (ByteView.of [0]) ⟨true, 2⟩)] at hlog
  have := hlog.length_le
  rw [List.length_append, List.length_singleton] at this
  omega

/-- Survival of a call and of those after it. -/
theorem connected_cons {call : Call} {calls : List Call} :
    (∀ done, done <+: call :: calls → Connected client handle (runCalls done w)) ↔
      Connected client handle w ∧
        ∀ done, done <+: calls → Connected client handle (runCalls done (call.run.exec w).2) := by
  constructor
  · intro h
    exact ⟨h [] List.nil_prefix, fun done hdone =>
      h (call :: done) (List.cons_prefix_cons.2 ⟨rfl, hdone⟩)⟩
  · rintro ⟨hnow, hthen⟩ done hdone
    rcases List.prefix_cons_iff.1 hdone with rfl | ⟨rest, rfl, hrest⟩
    · exact hnow
    · exact hthen rest hrest

/-- The entries that a later log has more. -/
theorem exists_news {w₁ w₂ : World} (h : Later w₁.clients w₂.clients) :
    ∃ news, w₂.clients.log = w₁.clients.log ++ news := by
  obtain ⟨news, hnews⟩ := h.log
  exact ⟨news, hnews.symm⟩

/-- **A connection that is kept survives a run of calls** that do not end it on purpose, while the
status reports generation `g`, exactly if no transmission loses the channel or the card, and `g` is
the generation that is expected, or the status is not asked for. -/
theorem Kept.survives_iff {g : UInt64} (h : Kept client handle w) {calls : List Call}
    (hkeeps : ∀ call ∈ calls, call.Keeps) {news : Log}
    (hnews : (runCalls calls w).clients.log = w.clients.log ++ news)
    (hreports : ∀ e ∈ news, Reports g e) :
    (∀ done, done <+: calls → Connected client handle (runCalls done w)) ↔
      (Expected w g ∨ ∀ call ∈ calls, ¬call.AsksStatus) ∧ ∀ e ∈ news, Harmless e := by
  induction calls generalizing w news with
  | nil =>
    obtain rfl : news = [] := List.self_eq_append_right.1 hnews
    refine iff_of_true (fun done hdone => ?_) ⟨.inr nofun, nofun⟩
    rw [List.prefix_nil.1 hdone]
    exact h.connection
  | cons call calls ih =>
    have hcalls : ∀ c ∈ calls, c.Keeps := fun c hc => hkeeps c (List.mem_cons_of_mem _ hc)
    have hlater := runCalls_later hcalls (call.run.exec w).2
    have hround := h.round (hkeeps call List.mem_cons_self)
    change (runCalls calls (call.run.exec w).2).clients.log = _ at hnews
    rw [connected_cons, and_iff_right h.connection]
    generalize (call.run.exec w).2 = w₁ at hround hlater hnews ⊢
    -- an entry that the call adds is one of the news
    have hmem {e : Sigma Ask.Answer} (hadded : w.clients.log ++ [e] <+: w₁.clients.log) :
        e ∈ news := by
      have hprefix := hadded.trans hlater.log
      rw [hnews, List.prefix_append_right_inj] at hprefix
      exact hprefix.subset List.mem_cons_self
    cases hround with
    | idle hasks hsame =>
      subst hsame
      rw [ih h hcalls hnews hreports, List.forall_mem_cons, and_iff_right hasks]
    | status hasks result hr =>
      obtain ⟨status, rfl, hpresent, rfl⟩ := hreports _ (hmem hr.added)
      have hno : ¬∀ c ∈ call :: calls, ¬c.AsksStatus := fun hno => hno call List.mem_cons_self hasks
      rw [or_iff_left hno]
      by_cases hexpected : Expected w status.readerGeneration
      · obtain ⟨hkept, hgeneration, hlog⟩ := hr.kept status rfl hpresent hexpected
        obtain ⟨news', hnews'⟩ := exists_news hlater
        obtain rfl : news = ⟨.status client, .ok status⟩ :: news' := by
          rw [hnews', hlog, List.append_assoc] at hnews
          exact (List.append_cancel_left hnews).symm
        rw [ih hkept hcalls hnews' fun e he => hreports e (List.mem_cons_of_mem _ he),
          List.forall_mem_cons,
          and_iff_right (show Harmless ⟨.status client, .ok status⟩ from trivial),
          and_iff_right (.inl (.inr hgeneration)), and_iff_right hexpected]
      · refine iff_of_false (fun hall => ?_) fun hno => hexpected hno.1
        exact nomatch (hall [] List.nil_prefix).owner.symm.trans (hr.dropped status rfl hexpected)
    | transmit hasks apdu capacity result hadded hkept hlost =>
      by_cases hharmless : Harmless ⟨.transmit client handle apdu capacity, result⟩
      · obtain rfl := hkept hharmless
        obtain ⟨news', hnews'⟩ := exists_news hlater
        obtain rfl : news = ⟨.transmit client handle apdu capacity, result⟩ :: news' := by
          rw [hnews', asked_log, List.append_assoc] at hnews
          exact (List.append_cancel_left hnews).symm
        rw [ih h.asked hcalls hnews' fun e he => hreports e (List.mem_cons_of_mem _ he),
          List.forall_mem_cons,
          List.forall_mem_cons, and_iff_right hharmless, and_iff_right hasks]
        rfl
      · refine iff_of_false (fun hall => ?_) fun hno => hharmless (hno.2 _ (hmem hadded))
        have hconnected := hall [] List.nil_prefix
        rcases hlost hharmless with hnone | habsent
        · exact nomatch hconnected.owner.symm.trans hnone
        · exact hconnected.not_lost (.inl habsent)

/-! ## Connections that are made -/

/-- What a successful `power` leaves, but for a power-down. -/
structure Powered (w w' : World) : Prop where
  configured : w'.adapter.channelConfigured = true
  owned : w'.adapter.client ≠ none
  generation : w'.adapter.readerGeneration = w.adapter.readerGeneration
  present : w'.adapter.present = true
  powered : w'.adapter.powered = true

theorem mapIfdError_ne_success (e : Error) (operation : IfdOperation) :
    mapIfdError e operation ≠ .success := by
  cases e <;> cases operation <;> decide

/-- What holds of everything holds after a function of the adapter. -/
theorem ends_of_forall {α : Type} {x : Ifd α} {Q : α → World → Prop} (h : ∀ a w', Q a w') :
    Ends x w Q := by
  unfold Ends After
  cases x.exec w with | mk outcome w' =>
  cases outcome with
  | ok a => exact h a w'
  | error e => exact e.elim

theorem fail_result (w : World) (e : Error) (operation : IfdOperation) :
    Ends (fail e operation) w fun result _ => result = mapIfdError e operation := by
  unfold fail Ends
  refine after_ite rfl ?_
  refine after_ite ?_ rfl
  rw [Program.after_bind]
  exact ends_of_forall fun _ _ => rfl

/-- `ensure_client` keeps the generation that is cached, if it succeeds. -/
theorem ensureClient_generation (w : World) :
    Ends ensureClient w fun result w' => result = .ok () →
      w'.adapter.channelConfigured = w.adapter.channelConfigured ∧
      w'.adapter.readerGeneration = w.adapter.readerGeneration := by
  unfold ensureClient Ends
  rw [Program.after_bind, Program.after_get]
  refine after_ite nofun ?_
  cases w.adapter.client with
  | some client => exact fun _ => ⟨rfl, rfl⟩
  | none =>
    dsimp only
    rw [Program.after_bind]
    refine ends_ask fun answer _ => ?_
    cases answer with
    | error e => nofun
    | ok u => exact fun _ => ⟨rfl, rfl⟩

/-- `power_or_reset` keeps the generation that is cached, whatever the one of the card is. -/
theorem powerOrReset_powered {strict : Prop} (h : Inv strict w)
    (hconfigured : w.adapter.channelConfigured = true) (forceReset : Bool) :
    Ends (powerOrReset forceReset) w fun result w' => (∃ r, result = .ok r) → Powered w w' := by
  unfold powerOrReset Ends
  rw [Program.after_bind, Program.after_get]
  dsimp only
  cases hclient : w.adapter.client with
  | none => nofun
  | some client =>
    have hconnected {q : Ask} {a : q.Answer} (result : IfdCardConnectResult) :
        After (connected result) (w.asked q a)
        (fun result w' => (∃ r, result = .ok r) → Powered w w')
          fun e _ => e.elim :=
      fun _ => ⟨hconfigured, (fun hnone => nomatch hclient.symm.trans hnone), rfl, rfl, rfl⟩
    refine after_ite ?_ ?_
    · rw [Program.after_bind]
      refine ends_ask fun answer _ => ?_
      cases answer with
      | error e =>
        dsimp only
        rw [Program.after_bind]
        exact ends_of_forall fun _ _ => nofun
      | ok result => exact hconnected result
    · split
      · rw [Program.after_bind]
        refine ends_ask fun answer _ => ?_
        cases answer with
        | error e => nofun
        | ok result => exact hconnected result
      · next hcached =>
        rw [not_or, Bool.not_eq_false] at hcached
        exact fun _ => ⟨hconfigured, (fun hnone => nomatch hclient.symm.trans hnone), rfl,
          h.present hcached.2, hcached.2⟩

/-- **A successful power-up or reset.** -/
theorem power_powered {strict : Prop} (h : Inv strict w) {lun : UInt64} {action : IfdPowerAction}
    (haction : action ≠ .powerDown) (atr : MutableByteView) (length : Nat) :
    Ends (power lun action atr length) w fun reply w' => reply.result = .success →
    Powered w w' := by
  unfold power Ends
  rw [Program.after_bind, Program.after_get]
  dsimp only
  split
  · nofun
  · next hguard =>
    rw [not_or, Bool.not_eq_false] at hguard
    rw [Program.after_bind]
    refine ((ensureClient_spec h).and (ensureClient_generation w)).mono ?_ fun e => e.elim
    rintro result w₁ ⟨⟨h₁, -⟩, hkept⟩
    cases result with
    | error e => nofun
    | ok u =>
      obtain ⟨hconfigured, hgeneration⟩ := hkept rfl
      dsimp only
      rw [Program.after_bind]
      refine (powerOrReset_powered h₁ (hconfigured.trans hguard.2) _).mono ?_ fun e => e.elim
      intro result w₂ h₂
      cases result with
      | error e =>
        dsimp only
        rw [Program.after_bind]
        refine (fail_result w₂ e .power).mono ?_ fun e => e.elim
        rintro _ w₃ rfl hsuccess
        exact absurd hsuccess (mapIfdError_ne_success e .power)
      | ok r =>
        obtain ⟨hconfigured', howned, hgeneration', hpresent, hpowered⟩ := h₂ ⟨r, rfl⟩
        exact fun _ => ⟨hconfigured', howned, hgeneration'.trans hgeneration, hpresent, hpowered⟩

/-! ## Survival -/

/-- **Connections that are made by `power` survive** a run of calls that do not end them on purpose,
while the status reports the card with generation `g`, exactly if the reader generation that was
cached before is none, or `g`, or the run does not ask for the status; and no transmission loses the
channel or the card. -/
theorem connection_survival (answer : Log → (q : Ask) → q.Answer) (calls : List Call)
    (action : IfdPowerAction) (haction : action ≠ .powerDown) (lun : UInt64) (atr : MutableByteView)
    (length : Nat) (reply : Reply) (w' : World) (g : UInt64)
    (hpower : (power lun action atr length).exec (runCalls calls { clients := ⟨[], answer⟩ }) =
      (.ok reply, w')) (hsuccess : reply.result = .success) (next : List Call)
    (hnext : ∀ call ∈ next, call.Keeps) (news : Log)
    (hnews : (runCalls next w').clients.log = w'.clients.log ++ news)
    (hreports : ∀ e ∈ news, Reports g e) :
    Survives next w' ↔ w'.adapter.cardHandle ≠ 0 ∧
      (Expected (runCalls calls { clients := ⟨[], answer⟩ }) g ∨ ∀ call ∈ next, ¬call.AsksStatus) ∧
      ∀ e ∈ news, Harmless e := by
  have hinv : Inv (NonzeroGenerations answer) (runCalls calls { clients := ⟨[], answer⟩ }) :=
    (init_inv id).run calls
  have hpowered := (power_powered hinv haction atr length).ok hpower hsuccess
  generalize runCalls calls { clients := ⟨[], answer⟩ } = w at hpowered ⊢
  obtain ⟨client, howner⟩ := Option.ne_none_iff_exists'.1 hpowered.owned
  have hexpected : Expected w g ↔ Expected w' g := by
    unfold Expected
    rw [hpowered.generation]
  have hkept (hhandle : w'.adapter.cardHandle ≠ 0) : Kept client w'.adapter.cardHandle w' :=
    ⟨hpowered.configured, hhandle, howner, rfl, hpowered.present, hpowered.powered⟩
  rw [hexpected]
  constructor
  · rintro ⟨client', hsurvives⟩
    have hnow := hsurvives [] List.nil_prefix
    obtain rfl := Option.some.inj (howner.symm.trans hnow.owner)
    have hhandle : w'.adapter.cardHandle ≠ 0 := fun hzero => hnow.not_lost (.inr (.inr hzero))
    exact ⟨hhandle, ((hkept hhandle).survives_iff hnext hnews hreports).1 hsurvives⟩
  · rintro ⟨hhandle, hholds⟩
    exact ⟨client, ((hkept hhandle).survives_iff hnext hnews hreports).2 hholds⟩

/-- Clients that report the card with generation `g`. -/
def steady (g : UInt64) : Log → (q : Ask) → q.Answer
  | _, .connect _ => .ok ()
  | _, .status _ => .ok { present := true, readerGeneration := g }
  | _, .connectShared _ => .ok { handle := 1 }
  | _, .disconnect _ _ => .ok ()
  | _, .reset _ handle => .ok { handle }
  | _, .transmit _ _ _ _ => .ok 2
  | _, .close _ => ()

/-- Clients that first report generation 1 and, from the third call on, generation 2. -/
def changing (log : Log) (q : Ask) : q.Answer :=
  if log.length < 2 then steady 1 log q else steady 2 log q

/-- A channel that has been created. -/
def created (answer : Log → (q : Ask) → q.Answer) : World :=
  runCalls [.createChannelByName 0 (some exampleName)] { clients := ⟨[], answer⟩ }

/-- A power-up after it. -/
def poweredUp (answer : Log → (q : Ask) → q.Answer) : Except Empty Reply × World :=
  (power 0 .powerUp ⟨true, 33⟩ 33).exec (created answer)

/-- A poll, a transmission and a poll. -/
def polls : List Call :=
  [.presence 0, .transmit 0 kIfdTransmitProtocolT1 (ByteView.of [0]) ⟨true, 2⟩, .presence 0]

/-- A channel that has been created while generation 1 was reported, and a card that is connected at
generation 2: the next `presence` drops the client, although it reports generation 2. -/
theorem connection_survival_stale :
    (∃ reply, (poweredUp changing).1 = .ok reply ∧ reply.result = .success) ∧
      (∃ news, (runCalls [.presence 0] (poweredUp changing).2).clients.log =
        (poweredUp changing).2.clients.log ++ news ∧ (∀ e ∈ news, Reports 2 e) ∧
        ∀ e ∈ news, Harmless e) ∧
      ¬Survives [.presence 0] (poweredUp changing).2 := by
  refine ⟨⟨_, rfl, rfl⟩,
    ⟨[⟨.status 0, .ok { present := true, readerGeneration := 2 }⟩, ⟨.close 0, ()⟩], rfl,
    ?_, ?_⟩, ?_⟩
  · exact List.forall_mem_cons.2 ⟨⟨_, rfl, rfl, rfl⟩, List.forall_mem_singleton.2 trivial⟩
  · exact List.forall_mem_cons.2 ⟨trivial, List.forall_mem_singleton.2 trivial⟩
  · rintro ⟨client, hsurvives⟩
    have hdropped : (runCalls [.presence 0] (poweredUp changing).2).adapter.client = none := rfl
    exact Option.some_ne_none _ ((hsurvives _ (List.prefix_refl _)).owner.symm.trans hdropped)

/-- With one generation throughout, the connection survives. -/
theorem connection_survival_steady : Survives polls (poweredUp (steady 1)).2 := by
  refine (connection_survival (steady 1)
    [.createChannelByName 0 (some exampleName)] .powerUp (by decide) 0
    ⟨true, 33⟩ 33 _ _ 1 rfl rfl polls ?_
    [⟨.status 0, .ok { present := true, readerGeneration := 1 }⟩, ⟨.transmit 0 1 [0] 2, .ok 2⟩,
      ⟨.status 0, .ok { present := true, readerGeneration := 1 }⟩] rfl ?_).2
      ⟨by decide, .inl (.inr rfl), ?_⟩
  · exact List.forall_mem_cons.2
      ⟨trivial, List.forall_mem_cons.2 ⟨trivial, List.forall_mem_singleton.2 trivial⟩⟩
  · exact List.forall_mem_cons.2 ⟨⟨_, rfl, rfl, rfl⟩,
      List.forall_mem_cons.2 ⟨trivial, List.forall_mem_singleton.2 ⟨_, rfl, rfl, rfl⟩⟩⟩
  · exact List.forall_mem_cons.2
      ⟨trivial, List.forall_mem_cons.2 ⟨trivial, List.forall_mem_singleton.2 trivial⟩⟩

end Px4.Pcsc
