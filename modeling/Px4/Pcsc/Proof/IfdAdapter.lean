import Px4.Pcsc.IfdAdapter
import Px4.Lib.Hoare
import Px4.Lib.Past

/-!
# Card handles of the PC/SC reader

* `Allowed`: which calls of clients are allowed after others.
* `Inv`: what holds between calls.
* `handle_safety`: runs of calls.
-/

namespace Px4.Pcsc

open Lib (Program Always Since last)
open Lib.Program (After after_ite)

/-! ## What clients have been asked -/

/-- A client that the factory has made. -/
def Makes : Sigma Ask.Answer → Bool
  | ⟨.connect _, .ok _⟩ => true
  | _ => false

/-- How many clients the factory has made. -/
def madeIn (log : Log) : Nat := log.countP Makes

/-- The client has been made and not been closed. -/
def Live (log : Log) (client : Nat) : Prop := client < madeIn log ∧ ∀ e ∈ log, e.1 ≠ .close client

/-- The client has returned the handle. -/
def Gives (client : Nat) (handle : UInt64) : Sigma Ask.Answer → Prop
  | ⟨.connectShared c, .ok result⟩ => c = client ∧ result.handle = handle
  | ⟨.reset c _, .ok result⟩ => c = client ∧ result.handle = handle
  | _ => False

/-- The handle has been disconnected. -/
def Takes (client : Nat) (handle : UInt64) : Sigma Ask.Answer → Prop
  | ⟨.disconnect c h, .ok _⟩ => c = client ∧ h = handle
  | _ => False

/-- The handle comes from the client, and has not been disconnected since. -/
def Held (log : Log) (client : Nat) (handle : UInt64) : Prop :=
  Since (fun _ => Gives client handle) (Takes client handle) log

/-- The generation in a status. -/
def generation : Sigma Ask.Answer → Option UInt64
  | ⟨.status _, .ok status⟩ => some status.readerGeneration
  | _ => none

/-- The generation in a status of the client. -/
def generationOf (client : Nat) : Sigma Ask.Answer → Option UInt64
  | ⟨.status c, .ok status⟩ => if c = client then some status.readerGeneration else none
  | _ => none

/-- The generation in the previous status of the same client. -/
def ofClient (log : Log) (client : Nat) : Option UInt64 := last (generationOf client) log

/-- The generation in the previous status. -/
def ofAny (log : Log) (_ : Nat) : Option UInt64 := last generation log

/-- A status that reports absence, or not the generation that `previous` finds. -/
def Alarm (previous : Log → Nat → Option UInt64) (log : Log) : Sigma Ask.Answer → Prop
  | ⟨.status client, .ok status⟩ =>
    status.present = false ∨ ∃ g, previous log client = some g ∧ g ≠ status.readerGeneration
  | _ => False

/-- A card has been connected. -/
def Connects : Sigma Ask.Answer → Prop
  | ⟨.connectShared _, .ok _⟩ => True
  | _ => False

/-- What may be asked of clients. Handles are nonzero, and held at that time; nothing is asked of a
client that has been closed; and nothing is transmitted after an alarm until a card has been
connected. -/
def Allowed (previous : Log → Nat → Option UInt64) (log : Log) (e : Sigma Ask.Answer) : Prop :=
  match e.1 with
  | .connect _ => True
  | .status client | .connectShared client | .close client => Live log client
  | .disconnect client handle | .reset client handle =>
    Live log client ∧ handle ≠ 0 ∧ Held log client handle
  | .transmit client handle _ _ =>
    Live log client ∧ handle ≠ 0 ∧ Held log client handle ∧ ¬Since (Alarm previous) Connects log

/-- Generations of readers are nonzero. -/
def NonzeroGenerations (answer : Log → (q : Ask) → q.Answer) : Prop :=
  ∀ log client status, answer log (.status client) = .ok status → status.readerGeneration ≠ 0

/-! ## The invariant -/

variable {strict : Prop}

/-- `Allowed` with the last generation of the same client; alarms only count if `strict`. -/
def AllowedIf (strict : Prop) (log : Log) (e : Sigma Ask.Answer) : Prop :=
  match e.1 with
  | .connect _ => True
  | .status client | .connectShared client | .close client => Live log client
  | .disconnect client handle | .reset client handle =>
    Live log client ∧ handle ≠ 0 ∧ Held log client handle
  | .transmit client handle _ _ =>
    Live log client ∧ handle ≠ 0 ∧ Held log client handle ∧
      (strict → ¬Since (Alarm ofClient) Connects log)

/-- What holds of a log, between calls and within them; `strict` if generations are nonzero. -/
structure Past (strict : Prop) (answer : Log → (q : Ask) → q.Answer) (log : Log) : Prop where
  generations : strict → NonzeroGenerations answer
  allowed : Always (AllowedIf strict) log
  nonzero : strict → ∀ client g, ofClient log client = some g → g ≠ 0

/-- What always holds of the adapter and its client. -/
structure Base (strict : Prop) (w : World) : Prop where
  past : Past strict w.clients.answer w.clients.log
  made : w.made = madeIn w.clients.log
  live : ∀ client, w.adapter.client = some client → Live w.clients.log client

/-- What holds between calls. -/
structure Inv (strict : Prop) (w : World) : Prop extends Base strict w where
  absent : w.adapter.client = none → w.adapter.cardHandle = 0 ∧ w.adapter.powered = false
  held : ∀ client, w.adapter.client = some client → w.adapter.cardHandle ≠ 0 →
    Held w.clients.log client w.adapter.cardHandle
  generation : ∀ client g, w.adapter.client = some client → ofClient w.clients.log client = some g →
    w.adapter.readerGeneration = g
  quiet : strict → w.adapter.cardHandle ≠ 0 → ¬Since (Alarm ofClient) Connects w.clients.log
  present : w.adapter.powered = true → w.adapter.present = true

/-- A world after a question. -/
def World.asked (w : World) (q : Ask) (answer : q.Answer) : World :=
  { w with clients := { w.clients with log := w.clients.log ++ [⟨q, answer⟩] } }

@[simp] theorem asked_adapter (w : World) (q : Ask) (answer : q.Answer) :
    (w.asked q answer).adapter = w.adapter := rfl

@[simp] theorem asked_log (w : World) (q : Ask) (answer : q.Answer) :
    (w.asked q answer).clients.log = w.clients.log ++ [⟨q, answer⟩] := rfl

/-- What holds after a function of the adapter, which always comes back. -/
abbrev Ends {α : Type} (x : Ifd α) (w : World) (Q : α → World → Prop) : Prop :=
  After x w Q fun e _ => e.elim

theorem ends_ask {q : Ask} {w : World} {Q : q.Answer → World → Prop}
    (h : ∀ answer, w.clients.answer w.clients.log q = answer → Q answer (w.asked q answer)) :
    Ends (ask q) w Q := h _ rfl

theorem after_update {f : IfdAdapter → IfdAdapter} {w : World} {Q : PUnit → World → Prop}
    {R : Empty → World → Prop} :
    After (update f) w Q R ↔ Q ⟨⟩ { w with adapter := f w.adapter } := Iff.rfl

/-- What holds of the state after a function of the adapter. -/
theorem ends_exec {α : Type} {x : Ifd α} {w : World} {I : World → Prop} (h : Ends x w fun _ => I) :
    I (x.exec w).2 := by
  unfold Ends After at h
  cases hexec : x.exec w with | mk outcome w' =>
  rw [hexec] at h
  cases outcome with
  | ok a => exact h
  | error e => exact e.elim

theorem madeIn_append (log : Log) (e : Sigma Ask.Answer) :
    madeIn (log ++ [e]) = madeIn log + if Makes e = true then 1 else 0 := by
  rw [madeIn, List.countP_append, List.countP_singleton]
  rfl

theorem Live.append {log : Log} {client : Nat} (h : Live log client) {e : Sigma Ask.Answer}
    (he : e.1 ≠ .close client) : Live (log ++ [e]) client := by
  refine ⟨?_, fun e' he' => ?_⟩
  · rw [madeIn_append]
    exact Nat.lt_add_right _ h.1
  · obtain he' | he' := List.mem_append.1 he'
    · exact h.2 e' he'
    · rwa [List.mem_singleton.1 he']

theorem held_append {log : Log} {client : Nat} {handle : UInt64} {e : Sigma Ask.Answer} :
    Held (log ++ [e]) client handle ↔ Gives client handle e ∨ Held log client handle ∧
    ¬Takes client handle e :=
  Lib.since_append

theorem ofClient_append {log : Log} {client : Nat} {e : Sigma Ask.Answer} :
    ofClient (log ++ [e]) client = (generationOf client e).or (ofClient log client) :=
  Lib.last_append

theorem Past.append {answer : Log → (q : Ask) → q.Answer} {log : Log} (h : Past strict answer log)
    {q : Ask} {a : q.Answer} (ha : answer log q = a) (hallowed : AllowedIf strict log ⟨q, a⟩) :
    Past strict answer (log ++ [⟨q, a⟩]) where
  generations := h.generations
  allowed := Lib.always_append.2 ⟨h.allowed, hallowed⟩
  nonzero := by
    intro hstrict client g hg
    rw [ofClient_append] at hg
    cases hnew : generationOf client ⟨q, a⟩ with
    | none =>
      rw [hnew] at hg
      exact h.nonzero hstrict client g hg
    | some g' =>
      rw [hnew] at hg
      obtain rfl := Option.some.inj hg
      unfold generationOf at hnew
      split at hnew
      · next c status heq =>
        cases heq
        split at hnew
        · obtain rfl := Option.some.inj hnew
          exact h.generations hstrict _ _ _ ha
        · cases hnew
      · cases hnew

/-- The client that is asked. -/
def Ask.client : Ask → Option Nat
  | .connect _ => none
  | .status client | .connectShared client | .disconnect client _ | .reset client _
  | .transmit client _ _ _ | .close client => some client

theorem client_of_generationOf {client : Nat} {e : Sigma Ask.Answer} {g : UInt64}
    (h : generationOf client e = some g) : e.1.client = some client := by
  unfold generationOf at h
  split at h
  · split at h
    · next heq =>
      rw [← heq]
      rfl
    · cases h
  · cases h

/-- Only clients that have been made are asked. -/
theorem Past.lt_madeIn {answer : Log → (q : Ask) → q.Answer} {log : Log}
    (h : Past strict answer log) {e : Sigma Ask.Answer} (he : e ∈ log) {client : Nat}
    (hclient : e.1.client = some client) :
    client < madeIn log := by
  obtain ⟨before, after, rfl⟩ := List.append_of_mem he
  have hallowed := h.allowed before e after rfl
  have hlive : client < madeIn before := by
    unfold AllowedIf at hallowed
    obtain ⟨q, a⟩ := e
    cases q with
    | connect => cases hclient
    | status | connectShared | close => exact Option.some.inj hclient ▸ hallowed.1
    | disconnect | reset | transmit => exact Option.some.inj hclient ▸ hallowed.1.1
  refine Nat.lt_of_lt_of_le hlive ?_
  rw [madeIn, madeIn, List.countP_append]
  exact Nat.le_add_right _ _

namespace Base

variable {w : World}

/-- A question that does not close the client. -/
theorem asked (h : Base strict w) {q : Ask} {a : q.Answer}
    (ha : w.clients.answer w.clients.log q = a) (hallowed : AllowedIf strict w.clients.log ⟨q, a⟩)
    (hclose : ∀ client, w.adapter.client = some client → q ≠ .close client)
    (hmakes : Makes ⟨q, a⟩ = false) : Base strict (w.asked q a) where
  past := h.past.append ha hallowed
  made := by
    show w.made = _
    rw [asked_log, madeIn_append, hmakes, h.made]
    rfl
  live := fun client hclient => (h.live client hclient).append (hclose client hclient)

end Base

namespace Inv

variable {w : World}

/-- A question that changes nothing. -/
theorem asked (h : Inv strict w) {q : Ask} {a : q.Answer}
    (ha : w.clients.answer w.clients.log q = a) (hallowed : AllowedIf strict w.clients.log ⟨q, a⟩)
    (hclose : ∀ client, w.adapter.client = some client → q ≠ .close client)
    (hmakes : Makes ⟨q, a⟩ = false) (htakes : ∀ client handle, ¬Takes client handle ⟨q, a⟩)
    (hgeneration : ∀ client, generationOf client ⟨q, a⟩ = none)
    (halarm : ¬Alarm ofClient w.clients.log ⟨q, a⟩) : Inv strict (w.asked q a) where
  toBase := h.toBase.asked ha hallowed hclose hmakes
  absent := h.absent
  held := fun client hclient hhandle =>
    held_append.2 (.inr ⟨h.held client hclient hhandle, htakes _ _⟩)
  generation := by
    intro client g hclient hg
    rw [asked_log, ofClient_append, hgeneration] at hg
    exact h.generation client g hclient hg
  quiet := by
    intro hstrict hhandle hsince
    rw [asked_log, Lib.since_append] at hsince
    exact hsince.elim halarm fun hsince => h.quiet hstrict hhandle hsince.1
  present := h.present

theorem clear (h : Inv strict w) : Inv strict { w with adapter := w.adapter.clearCardState } where
  past := h.past
  made := h.made
  live := h.live
  absent := fun hnone => ⟨(h.absent hnone).1, rfl⟩
  held := h.held
  generation := h.generation
  quiet := h.quiet
  present := nofun

end Inv

/-! ## Private functions -/

/-- The adapter after `invalidate_client`. -/
def IfdAdapter.invalidated (adapter : IfdAdapter) : IfdAdapter :=
  { adapter with client := none, cardHandle := 0, readerGeneration := 0 }.clearCardState

variable {w : World}

/-- `invalidate_client` leaves no client, whatever there was. -/
theorem invalidateClient_spec (h : Base strict w) :
    Ends invalidateClient w fun _ w' => Inv strict w' ∧ w'.adapter.client = none ∧
      w'.adapter.channelConfigured = w.adapter.channelConfigured := by
  have hempty (w' : World) (hpast : Past strict w'.clients.answer w'.clients.log)
      (hmade : w'.made = madeIn w'.clients.log) :
      Inv strict { w' with adapter := w'.adapter.invalidated } :=
    { past := hpast
      made := hmade
      live := nofun
      absent := fun _ => ⟨rfl, rfl⟩
      held := nofun
      generation := nofun
      quiet := fun _ hne => absurd rfl hne
      present := nofun }
  unfold invalidateClient Ends
  rw [Program.after_bind, Program.after_get]
  cases hclient : w.adapter.client with
  | none => exact ⟨hempty w h.past h.made, rfl, rfl⟩
  | some client =>
    dsimp only
    rw [Program.after_bind]
    refine ends_ask fun answer hanswer => ⟨hempty _ ?_ ?_, rfl, rfl⟩
    · exact h.past.append hanswer (h.live client hclient)
    · rw [asked_log, madeIn_append]
      exact h.made

/-- `ensure_client` leaves a client if it succeeds. -/
theorem ensureClient_spec (h : Inv strict w) :
    Ends ensureClient w fun result w' => Inv strict w' ∧
    (result = .ok () → w'.adapter.client ≠ none) := by
  unfold ensureClient Ends
  rw [Program.after_bind, Program.after_get]
  dsimp only
  split
  · exact ⟨h, nofun⟩
  · cases hclient : w.adapter.client with
    | some client => exact ⟨h, fun _ => by rw [hclient]; nofun⟩
    | none =>
      obtain ⟨hhandle, hpowered⟩ := h.absent hclient
      dsimp only
      rw [Program.after_bind]
      refine ends_ask fun answer hanswer => ?_
      cases answer with
      | error e =>
        have hasked := h.asked hanswer trivial nofun rfl (fun _ _ => id) (fun _ => rfl) id
        rw [Program.after_bind, after_update]
        refine ⟨?_, nofun⟩
        exact {
          past := hasked.past
          made := hasked.made
          live := hasked.live
          absent := fun _ => ⟨rfl, rfl⟩
          held := fun _ _ hne => absurd rfl hne
          generation := fun client g hsome => by
            rw [show w.adapter.client = some client from hsome] at hclient
            cases hclient
          quiet := fun _ hne => absurd rfl hne
          present := nofun }
      | ok u =>
        have hpast := h.past.append hanswer trivial
        have hfresh (e : Sigma Ask.Answer) (he : e ∈ w.clients.log) : e.1.client ≠ some w.made := by
          intro hsome
          have hlt := h.past.lt_madeIn he hsome
          rw [← h.made] at hlt
          exact Nat.lt_irrefl _ hlt
        have hmade : w.made + 1 =
            madeIn (w.clients.log ++ [⟨.connect w.adapter.endpoint, .ok u⟩]) := by
          rw [madeIn_append, h.made]
          rfl
        rw [Program.after_bind, Program.after_modify]
        refine ⟨?_, fun _ => nofun⟩
        exact {
          past := hpast
          made := hmade
          live := by
            rintro client ⟨⟩
            refine ⟨hmade ▸ Nat.lt_succ_self _, fun e he => ?_⟩
            obtain he | he := List.mem_append.1 he
            · intro hclose
              exact hfresh e he (by rw [hclose]; rfl)
            · rw [List.mem_singleton.1 he]
              nofun
          absent := nofun
          held := fun _ _ hne => absurd hhandle hne
          generation := by
            rintro client g ⟨⟩ hg
            obtain ⟨e, he, hg⟩ := Lib.exists_of_last hg
            obtain he | he := List.mem_append.1 he
            · exact absurd (client_of_generationOf hg) (hfresh e he)
            · rw [List.mem_singleton.1 he] at hg
              cases hg
          quiet := fun _ hne => absurd hhandle hne
          present := h.present }

theorem fail_spec (h : Inv strict w) (e : Error) (operation : IfdOperation) :
    Ends (fail e operation) w fun _ => Inv strict := by
  unfold fail Ends
  split
  · exact h.clear
  · dsimp only
    split
    · rw [Program.after_bind]
      exact (invalidateClient_spec h.toBase).mono (fun _ _ h' => h'.1) fun e => e.elim
    · exact h

/-- `refresh_status`: an alarm leaves no handle. -/
theorem refreshStatus_spec (h : Inv strict w) : Ends refreshStatus w fun _ => Inv strict := by
  unfold refreshStatus Ends
  rw [Program.after_bind, Program.after_get]
  cases hclient : w.adapter.client with
  | none => exact h
  | some client =>
    dsimp only
    rw [Program.after_bind]
    have hlive := h.live client hclient
    refine ends_ask fun answer hanswer => ?_
    cases answer with
    | error e =>
      exact h.asked hanswer hlive (fun _ _ => nofun) rfl (fun _ _ => id) (fun _ => rfl) id
    | ok status =>
      have hbase := h.toBase.asked hanswer hlive (fun _ _ => nofun) rfl
      have hlast (c : Nat) (hc : w.adapter.client = some c) :
          ofClient (w.clients.log ++ [⟨.status client, .ok status⟩]) c =
          some status.readerGeneration := by
        obtain rfl := Option.some.inj (hclient.symm.trans hc)
        rw [ofClient_append, generationOf, if_pos rfl]
        rfl
      dsimp only
      rw [Program.after_bind, Program.after_get]
      split
      · split
        · rw [Program.after_bind]
          refine (invalidateClient_spec hbase).mono ?_ fun e => e.elim
          rintro _ w₁ ⟨h₁, hnone, -⟩
          rw [Program.after_bind, after_update]
          exact {
            past := h₁.past
            made := h₁.made
            live := h₁.live
            absent := h₁.absent
            held := h₁.held
            generation := fun c g hc => absurd (hnone.symm.trans hc) nofun
            quiet := h₁.quiet
            present := fun hpowered => absurd hpowered (by simp [(h₁.absent hnone).2]) }
        · next hhandle =>
          rw [not_not] at hhandle
          exact {
            past := hbase.past
            made := hbase.made
            live := hbase.live
            absent := fun _ => ⟨hhandle, rfl⟩
            held := fun _ _ hne => absurd hhandle hne
            generation := fun c g hc hg => Option.some.inj ((hlast c hc).symm.trans hg)
            quiet := fun _ hne => absurd hhandle hne
            present := nofun }
      · next hcalm =>
        rw [not_or, not_and_or, not_not, not_not, Bool.not_eq_false] at hcalm
        obtain ⟨hpresent, hsame⟩ := hcalm
        have halarm (hstrict : strict) : ¬Alarm ofClient w.clients.log
            ⟨.status client, .ok status⟩ := by
          rintro (habsent | ⟨g, hg, hne⟩)
          · rw [hpresent] at habsent
            cases habsent
          · have hcached := h.generation client g hclient hg
            have hnonzero := h.past.nonzero hstrict client g hg
            obtain hzero | heq := hsame
            · exact hnonzero (hcached.symm.trans hzero)
            · exact hne (hcached.symm.trans heq)
        have hinv : Inv strict { w.asked (.status client) (.ok status) with
            adapter := { w.adapter with readerGeneration := status.readerGeneration,
                                        present := status.present } } :=
          { past := hbase.past
            made := hbase.made
            live := hbase.live
            absent := h.absent
            held := fun c hc hne => held_append.2 (.inr ⟨h.held c hc hne, id⟩)
            generation := fun c g hc hg => Option.some.inj ((hlast c hc).symm.trans hg)
            quiet := by
              intro hstrict hne hsince
              rw [asked_log, Lib.since_append] at hsince
              exact hsince.elim (halarm hstrict) fun hsince => h.quiet hstrict hne hsince.1
            present := fun _ => hpresent }
        rw [Program.after_bind, after_update]
        split
        · exact {
            past := hinv.past
            made := hinv.made
            live := hinv.live
            absent := fun hnone => absurd (hclient.symm.trans hnone) nofun
            held := hinv.held
            generation := hinv.generation
            quiet := hinv.quiet
            present := fun _ => hpresent }
        · exact hinv

/-- `power_or_reset`. -/
theorem powerOrReset_spec (h : Inv strict w) (forceReset : Bool) :
    Ends (powerOrReset forceReset) w fun _ => Inv strict := by
  unfold powerOrReset Ends
  rw [Program.after_bind, Program.after_get]
  dsimp only
  cases hclient : w.adapter.client with
  | none => exact h
  | some client =>
    have hlive := h.live client hclient
    dsimp only
    split
    · rw [Program.after_bind]
      refine ends_ask fun answer hanswer => ?_
      have h' :=
        h.asked hanswer hlive (fun _ _ => nofun) rfl (fun _ _ => id) (fun _ => rfl) id
      cases answer with
      | error e =>
        dsimp only
        rw [Program.after_bind]
        exact (invalidateClient_spec h'.toBase).mono (fun _ _ h' => h'.1) fun e => e.elim
      | ok result =>
        exact {
          past := h'.past
          made := h'.made
          live := h'.live
          absent := fun hnone => absurd (hclient.symm.trans hnone) nofun
          held := fun c hc _ => held_append.2 (.inl ⟨Option.some.inj (hclient.symm.trans hc), rfl⟩)
          generation := h'.generation
          quiet := by
            intro _ _ hsince
            have hsince' := Lib.since_append.1 hsince
            exact hsince'.elim id fun hsince => hsince.2 trivial
          present := fun _ => rfl }
    · next hhandle =>
      split
      · rw [Program.after_bind]
        refine ends_ask fun answer hanswer => ?_
        have hallowed : AllowedIf strict w.clients.log
            ⟨.reset client w.adapter.cardHandle, answer⟩ :=
          ⟨hlive, hhandle, h.held client hclient hhandle⟩
        have h' := h.asked hanswer hallowed (fun _ _ => nofun) rfl (fun _ _ => id) (fun _ => rfl) id
        cases answer with
        | error e => exact h'
        | ok result =>
          exact {
            past := h'.past
            made := h'.made
            live := h'.live
            absent := fun hnone => absurd (hclient.symm.trans hnone) nofun
            held := fun c hc _ =>
              held_append.2 (.inl ⟨Option.some.inj (hclient.symm.trans hc), rfl⟩)
            generation := h'.generation
            quiet := fun hstrict _ => h'.quiet hstrict hhandle
            present := fun _ => rfl }
      · exact h

/-! ## Calls -/

/-- A change of the endpoint. -/
theorem Inv.withEndpoint (h : Inv strict w) (endpoint : IfdEndpoint) (configured : Bool) :
    Inv strict { w with adapter :=
      { w.adapter with endpoint := endpoint, channelConfigured := configured } } where
  past := h.past
  made := h.made
  live := h.live
  absent := h.absent
  held := h.held
  generation := h.generation
  quiet := h.quiet
  present := h.present

theorem invalidateChannel_spec (h : Base strict w) :
    Ends invalidateChannel w fun _ => Inv strict := by
  unfold invalidateChannel Ends
  rw [Program.after_bind]
  exact (invalidateClient_spec h).mono (fun _ _ h' => h'.1.withEndpoint _ _) fun e => e.elim

theorem createChannelByName_spec (h : Inv strict w) (lun : UInt64)
    (deviceName : Option (List UInt8)) :
    Ends (createChannelByName lun deviceName) w fun _ => Inv strict := by
  unfold createChannelByName Ends
  cases parseIfdDeviceName deviceName with
  | error e => exact h
  | ok endpoint =>
    dsimp only
    split
    · exact h
    · rw [Program.after_bind, Program.after_get]
      split
      · exact h
      · rw [Program.after_bind, after_update, Program.after_bind]
        refine (ensureClient_spec (h.withEndpoint endpoint true)).mono ?_ fun e => e.elim
        rintro connected w₁ ⟨h₁, -⟩
        cases connected with
        | error e => exact h₁
        | ok u =>
          dsimp only
          rw [Program.after_bind]
          refine (refreshStatus_spec h₁).mono (fun status w₂ h₂ => ?_) fun e => e.elim
          cases status with
          | error e =>
            dsimp only
            rw [Program.after_bind]
            exact (invalidateClient_spec h₂.toBase).mono (fun _ _ h' => h'.1) fun e => e.elim
          | ok status => exact h₂

theorem closeChannel_spec (h : Inv strict w) (lun : UInt64) :
    Ends (closeChannel lun) w fun _ => Inv strict := by
  have hinvalidate (result : IfdResult) {w' : World} (h' : Base strict w') :
      After (do invalidateChannel; return { result := result } : Ifd Reply) w' (fun _ => Inv strict)
        fun e _ => e.elim := by
    rw [Program.after_bind]
    exact invalidateChannel_spec h'
  unfold closeChannel Ends
  rw [Program.after_bind, Program.after_get]
  dsimp only
  split
  · exact h
  · split
    · exact h
    · cases hclient : w.adapter.client with
      | none => exact hinvalidate _ h.toBase
      | some client =>
        dsimp only
        split
        · exact hinvalidate _ h.toBase
        · next hhandle =>
          rw [Program.after_bind]
          refine ends_ask fun answer hanswer => ?_
          have hallowed : AllowedIf strict w.clients.log
              ⟨.disconnect client w.adapter.cardHandle, answer⟩ :=
            ⟨h.live client hclient, hhandle, h.held client hclient hhandle⟩
          have hbase := h.toBase.asked hanswer hallowed (fun _ _ => nofun) rfl
          cases answer with
          | ok u => exact hinvalidate _ hbase
          | error e => exact hinvalidate _ hbase

theorem statusCapability_spec (h : Inv strict w) (value : IfdCardStatus → IfdAdapter → Bool)
    (output : MutableByteView) (length : Nat) :
    Ends (statusCapability value output length) w fun _ => Inv strict := by
  unfold statusCapability Ends
  rw [Program.after_bind]
  refine (ensureClient_spec h).mono ?_ fun e => e.elim
  rintro connected w₁ ⟨h₁, -⟩
  cases connected with
  | error e => exact h₁
  | ok u =>
    dsimp only
    rw [Program.after_bind]
    refine (refreshStatus_spec h₁).mono (fun status w₂ h₂ => ?_) fun e => e.elim
    cases status with
    | error e =>
      dsimp only
      rw [Program.after_bind]
      exact fail_spec h₂ e .status
    | ok status => exact h₂

theorem getCapability_spec (h : Inv strict w) (lun : UInt64) (tag : UInt32)
    (output : MutableByteView) (length : Nat) : Ends (getCapability lun tag output length) w
    fun _ => Inv strict := by
  unfold getCapability Ends
  rw [Program.after_bind, Program.after_get]
  refine after_ite h <| after_ite h <| after_ite h <| after_ite h <| after_ite h <| after_ite h <|
    after_ite h <| after_ite h <| after_ite h <| after_ite h <| after_ite h <| after_ite h <|
    after_ite h <| after_ite ?_ <| after_ite ?_ h
  · exact statusCapability_spec h _ output length
  · exact statusCapability_spec h _ output length

theorem power_spec (h : Inv strict w) (lun : UInt64) (action : IfdPowerAction)
    (atr : MutableByteView) (length : Nat) : Ends (power lun action atr length) w fun _ =>
    Inv strict := by
  unfold power Ends
  rw [Program.after_bind, Program.after_get]
  dsimp only
  split
  · exact h
  · split
    · cases hclient : w.adapter.client with
      | none => exact h.clear
      | some client =>
        dsimp only
        split
        · exact h.clear
        · next hhandle =>
          rw [Program.after_bind]
          refine ends_ask fun answer hanswer => ?_
          have hallowed : AllowedIf strict w.clients.log
              ⟨.disconnect client w.adapter.cardHandle, answer⟩ :=
            ⟨h.live client hclient, hhandle, h.held client hclient hhandle⟩
          cases answer with
          | error e =>
            have h' := h.asked hanswer hallowed (fun _ _ => nofun) rfl
              (fun _ _ => id) (fun _ => rfl) id
            dsimp only
            rw [Program.after_bind]
            exact fail_spec h' e .power
          | ok u =>
            have hbase := h.toBase.asked hanswer hallowed (fun _ _ => nofun) rfl
            exact {
              past := hbase.past
              made := hbase.made
              live := hbase.live
              absent := fun _ => ⟨rfl, rfl⟩
              held := fun _ _ hne => absurd rfl hne
              generation := fun c g hc hg => by
                refine h.generation c g hc ?_
                rwa [asked_log, ofClient_append] at hg
              quiet := fun _ hne => absurd rfl hne
              present := nofun }
    · rw [Program.after_bind]
      refine (ensureClient_spec h).mono ?_ fun e => e.elim
      rintro connected w₁ ⟨h₁, -⟩
      cases connected with
      | error e => exact h₁
      | ok u =>
        dsimp only
        rw [Program.after_bind]
        refine (powerOrReset_spec h₁ _).mono (fun result w₂ h₂ => ?_) fun e => e.elim
        cases result with
        | error e =>
          dsimp only
          rw [Program.after_bind]
          exact fail_spec h₂ e .power
        | ok result => exact h₂

theorem transmit_spec (h : Inv strict w) (lun : UInt64) (protocol : UInt32) (apdu : ByteView)
    (response : MutableByteView) : Ends (transmit lun protocol apdu response) w fun _ =>
    Inv strict := by
  unfold transmit Ends
  rw [Program.after_bind, Program.after_get]
  split
  · exact h
  · rw [Program.after_bind]
    refine (ensureClient_spec h).mono ?_ fun e => e.elim
    rintro connected w₁ ⟨h₁, -⟩
    cases connected with
    | error e => exact h₁
    | ok u =>
      dsimp only
      rw [Program.after_bind, Program.after_get]
      split
      · exact h₁
      · split
        · exact h₁
        · next hready =>
          split
          · exact h₁
          · cases hclient : w₁.adapter.client with
            | none => exact h₁
            | some client =>
              have hhandle : w₁.adapter.cardHandle ≠ 0 := fun hzero => hready (.inr (.inr hzero))
              dsimp only
              rw [Program.after_bind]
              refine ends_ask fun answer hanswer => ?_
              have hallowed : AllowedIf strict w₁.clients.log
                  ⟨.transmit client w₁.adapter.cardHandle apdu.bytes response.size, answer⟩ :=
                ⟨h₁.live client hclient, hhandle, h₁.held client hclient hhandle, fun hstrict =>
                  h₁.quiet hstrict hhandle⟩
              have h' :=
                h₁.asked hanswer hallowed (fun _ _ => nofun) rfl (fun _ _ => id) (fun _ => rfl) id
              cases answer with
              | error e =>
                dsimp only
                rw [Program.after_bind]
                exact fail_spec h' e .transmit
              | ok length => exact h'

theorem presence_spec (h : Inv strict w) (lun : UInt64) :
    Ends (presence lun) w fun _ => Inv strict := by
  unfold presence Ends
  rw [Program.after_bind, Program.after_get]
  split
  · exact h
  · rw [Program.after_bind]
    refine (ensureClient_spec h).mono ?_ fun e => e.elim
    rintro connected w₁ ⟨h₁, -⟩
    cases connected with
    | error e =>
      dsimp only
      rw [Program.after_bind]
      exact fail_spec h₁ e .status
    | ok u =>
      dsimp only
      rw [Program.after_bind]
      refine (refreshStatus_spec h₁).mono (fun status w₂ h₂ => ?_) fun e => e.elim
      cases status with
      | error e =>
        dsimp only
        rw [Program.after_bind]
        exact fail_spec h₂ e .status
      | ok status => exact h₂

/-- **Every call keeps the invariant.** -/
theorem Inv.call (h : Inv strict w) (call : Call) : Ends call.run w fun _ => Inv strict := by
  cases call with
  | createChannelByName lun deviceName => exact createChannelByName_spec h lun deviceName
  | createChannel lun => exact h
  | closeChannel lun => exact closeChannel_spec h lun
  | getCapability lun tag output length => exact getCapability_spec h lun tag output length
  | setCapability lun tag value =>
    show Ends (setCapability lun tag value) w _
    unfold setCapability Ends
    rw [Program.after_bind, Program.after_get]
    exact after_ite h <| after_ite h <| after_ite h h
  | setProtocol lun protocol flags pts1 =>
    show Ends (setProtocol lun protocol flags pts1) w _
    unfold setProtocol Ends
    rw [Program.after_bind, Program.after_get]
    exact after_ite h <| after_ite h <| after_ite h <| after_ite h <| after_ite h <| after_ite h h
  | power lun action atr length => exact power_spec h lun action atr length
  | transmit lun protocol apdu response => exact transmit_spec h lun protocol apdu response
  | control lun => exact h
  | presence lun => exact presence_spec h lun

theorem Inv.run (h : Inv strict w) (calls : List Call) : Inv strict (runCalls calls w) := by
  induction calls generalizing w with
  | nil => exact h
  | cons call calls ih => exact ih (ends_exec (h.call call))

/-! ## Runs -/

theorem init_inv {answer : Log → (q : Ask) → q.Answer} (h : strict → NonzeroGenerations answer) :
    Inv strict { clients := ⟨[], answer⟩ } where
  past := ⟨h, Lib.always_nil, fun _ => nofun⟩
  made := rfl
  live := nofun
  absent := fun _ => ⟨rfl, rfl⟩
  held := nofun
  generation := nofun
  quiet := fun _ hne => absurd rfl hne
  present := nofun

/-- **Handles.** In every run, whatever the clients return: handles that are passed to a client are
nonzero, come from that client and have not been disconnected since; no client is called after it
has been closed; after a status that reports absence, or not the generation of the previous one of
the same client, nothing is transmitted until a card has been connected; and without a client there
is no handle and no power. -/
theorem handle_safety (answer : Log → (q : Ask) → q.Answer) (h : NonzeroGenerations answer)
    (calls : List Call) :
    let w := runCalls calls { clients := ⟨[], answer⟩ }
    Always (Allowed ofClient) w.clients.log ∧
      (w.adapter.client = none → w.adapter.cardHandle = 0 ∧ w.adapter.powered = false) := by
  have hrun : Inv (NonzeroGenerations answer) (runCalls calls { clients := ⟨[], answer⟩ }) :=
    (init_inv id).run calls
  refine ⟨hrun.past.allowed.mono fun before e hallowed => ?_, hrun.absent⟩
  unfold AllowedIf at hallowed
  unfold Allowed
  obtain ⟨q, a⟩ := e
  cases q with
  | transmit => exact ⟨hallowed.1, hallowed.2.1, hallowed.2.2.1, hallowed.2.2.2 h⟩
  | connect | status | connectShared | disconnect | reset | close => exact hallowed

/-- The name of a device. -/
def exampleName : List UInt8 :=
  kDevicePrefix ++ deviceKey ++ equalsSign :: List.replicate 14 0x31

/-- The endpoint that is named. -/
def exampleEndpoint : IfdEndpoint := { deviceInstance := List.replicate 14 0x31 }

/-- Two clients: the first one, with generation 1, is lost on its second status; the second one has
generation 2. -/
def twoClients : Log → (q : Ask) → q.Answer
  | _, .connect _ => .ok ()
  | log, .status client =>
    if client = 0 ∧ log.any (fun e => e.1 = .status 0) then .error .timeout
    else .ok { present := true, readerGeneration := if client = 0 then 1 else 2 }
  | _, .connectShared _ => .ok { handle := 7 }
  | _, .disconnect _ _ => .ok ()
  | _, .reset _ handle => .ok { handle }
  | _, .transmit _ _ _ _ => .ok 2
  | _, .close _ => ()

/-- The first client is lost, a card is connected through the second one, and an APDU is sent to it.
-/
def twoClientsCalls : List Call :=
  [.createChannelByName 0 (some exampleName), .presence 0,
    .power 0 .powerUp ⟨true, 33⟩ 33, .presence 0,
    .transmit 0 kIfdTransmitProtocolT1 (ByteView.of [0x90]) ⟨true, 2⟩]

theorem twoClients_generations : NonzeroGenerations twoClients := by
  intro log client status hstatus
  unfold twoClients at hstatus
  dsimp only at hstatus
  split at hstatus
  · cases hstatus
  · cases hstatus
    dsimp only
    split <;> decide

theorem handle_safety_two_clients :
    Always (Allowed ofClient) (runCalls twoClientsCalls
      { clients := ⟨[], twoClients⟩ }).clients.log :=
  (handle_safety twoClients twoClients_generations twoClientsCalls).1

/-- What is transmitted may follow on a status with another generation than the previous one, which
was of another client. -/
theorem transmits_after_change :
    ¬∀ answer, NonzeroGenerations answer → ∀ calls,
      Always (Allowed ofAny) (runCalls calls { clients := ⟨[], answer⟩ }).clients.log := by
  intro hall
  have hsafe := hall twoClients twoClients_generations twoClientsCalls
  let before : Log :=
    [⟨.connect exampleEndpoint, .ok ()⟩,
      ⟨.status 0, .ok { present := true, readerGeneration := 1 }⟩,
      ⟨.status 0, .error .timeout⟩, ⟨.close 0, ()⟩, ⟨.connect exampleEndpoint, .ok ()⟩,
      ⟨.connectShared 1, .ok { handle := 7 }⟩]
  let changed : Sigma Ask.Answer := ⟨.status 1, .ok { present := true, readerGeneration := 2 }⟩
  have hallowed := hsafe (before ++ [changed]) ⟨.transmit 1 7 [0x90] 2, .ok 2⟩ [] rfl
  exact hallowed.2.2.2 ⟨before, changed, [], rfl, .inr ⟨1, rfl, by decide⟩, nofun⟩

end Px4.Pcsc
