import Mathlib.Data.List.Perm.Basic
import Px4.Acquire.Proof.Discovery
import Px4.Acquire.Runtime

/-!
# What is held while the devices are acquired

`World.items` is what the local variables and the runtime hold, and `Held` says that it is what is
left of the calls. Every round of a loop keeps this; `cleanup` leaves no handle with the members
(`Closed`), and the destructors leave nothing but what the runtime holds.
-/

namespace Px4.Acquire

open Lib (Program)
open Lib.Program (After after_bind after_get after_modify)
open Lib.Custody (Item)
open Px4.Device

/-! ## What is held -/

def Pending.item (member : Pending) : Item Handle Fd :=
  ⟨member.retained, member.handle, member.claimed⟩

/-- What a transport holds, if there is one. -/
def slotItem : Option LibusbTransport → Item Handle Fd
  | none => ⟨none, none, false⟩
  | some transport => ⟨transport.retainedFd, transport.handle, transport.claimed⟩

def Impl.items (impl : Impl) : List (Item Handle Fd) := impl.transports.map slotItem

def World.items (w : World) : List (Item Handle Fd) :=
  w.pending.map Pending.item ++ (w.transports.map slotItem ++ w.impl.items)

/-- What is held is what is left of the calls. -/
def Held (w : World) : Prop := Tracked w.usb w.items

/-- The members have no handles. -/
def Closed (w : World) : Prop := ∀ member ∈ w.pending, member.handle = none

section

variable {α β : Type} {l : List α} {i : Nat} {a : α}

theorem exists_getElem? (h : i < l.length) : ∃ a, l[i]? = some a :=
  ⟨_, List.getElem?_eq_getElem h⟩

theorem getD_of_getElem? (h : l[i]? = some a) (default : α) : l.getD i default = a := by
  rw [List.getD_eq_getElem?_getD, h, Option.getD_some]

/-- One element of a list and the others. -/
theorem map_perm (f : α → β) (h : l[i]? = some a) :
    (l.map f).Perm (f a :: (l.eraseIdx i).map f) := by
  obtain ⟨hi, rfl⟩ := List.getElem?_eq_some_iff.1 h
  rw [← List.map_cons]
  exact ((List.getElem_cons_eraseIdx_perm hi).map f).symm

/-- The others stay when the element is set. -/
theorem map_set_perm (f : α → β) (h : l[i]? = some a) (b : α) :
    ((l.set i b).map f).Perm (f b :: (l.eraseIdx i).map f) := by
  obtain ⟨hi, -⟩ := List.getElem?_eq_some_iff.1 h
  rw [← List.map_cons]
  exact (List.set_perm_cons_eraseIdx hi b).map f

end

namespace Held

variable {w : World}

/-- A member, and what else is held. -/
theorem pending (h : Held w) {index : Nat} {member : Pending}
    (hm : w.pending[index]? = some member) :
    ∃ rest, Tracked w.usb (member.item :: rest) ∧
      ∀ usb' (member' : Pending), Tracked usb' (member'.item :: rest) →
        Held { w with usb := usb', pending := w.pending.set index member' } := by
  refine ⟨_, h.perm ((map_perm Pending.item hm).append_right _), fun usb' member' h' => ?_⟩
  exact h'.perm ((map_set_perm Pending.item hm member').append_right _).symm

/-- A slot, and what else is held. -/
theorem slot (h : Held w) {slot : Nat} {transport : Option LibusbTransport}
    (ht : w.transports[slot]? = some transport) :
    ∃ rest, Tracked w.usb (slotItem transport :: rest) ∧
      ∀ usb' transport', Tracked usb' (slotItem transport' :: rest) →
        Held { w with usb := usb', transports := w.transports.set slot transport' } := by
  have hperm := fun {l : List (Item Handle Fd)} {t} (hp : List.Perm l (slotItem t ::
      (w.transports.eraseIdx slot).map slotItem)) =>
    ((hp.append_right w.impl.items).append_left (w.pending.map Pending.item)).trans
      List.perm_middle
  refine ⟨_, h.perm (hperm (map_perm slotItem ht)), fun usb' transport' h' => ?_⟩
  exact h'.perm (hperm (map_set_perm slotItem ht transport')).symm

/-- A member and a slot, and what else is held. -/
theorem pending_slot (h : Held w) {index slot : Nat} {member : Pending}
    {transport : Option LibusbTransport} (hm : w.pending[index]? = some member)
    (ht : w.transports[slot]? = some transport) :
    ∃ rest, Tracked w.usb (slotItem transport :: member.item :: rest) ∧
      ∀ usb' (member' : Pending) transport',
        Tracked usb' (slotItem transport' :: member'.item :: rest) →
          Held { w with
            usb := usb'
            pending := w.pending.set index member'
            transports := w.transports.set slot transport' } := by
  have hperm := fun {l l' : List (Item Handle Fd)} {m : Pending} {t}
      (hp : List.Perm l (m.item :: (w.pending.eraseIdx index).map Pending.item))
      (hp' : List.Perm l' (slotItem t :: (w.transports.eraseIdx slot).map slotItem)) =>
    (hp.append (hp'.append_right w.impl.items)).trans List.perm_middle
  refine ⟨_, h.perm (hperm (map_perm _ hm) (map_perm _ ht)),
    fun usb' member' transport' h' => ?_⟩
  exact h'.perm (hperm (map_set_perm _ hm member') (map_set_perm _ ht transport')).symm

/-- A slot of the local variable and that of the runtime, and what else is held. -/
theorem slot_slot (h : Held w) {slot : Nat} {transport old : Option LibusbTransport}
    (ht : w.transports[slot]? = some transport) (ho : w.impl.transports[slot]? = some old) :
    ∃ rest, Tracked w.usb (slotItem transport :: slotItem old :: rest) ∧
      ∀ usb' transport' old', Tracked usb' (slotItem transport' :: slotItem old' :: rest) →
        Held { w with
          usb := usb'
          transports := w.transports.set slot transport'
          impl := { w.impl with transports := w.impl.transports.set slot old' } } := by
  have hperm := fun {l l' : List (Item Handle Fd)} {t o}
      (hp : List.Perm l (slotItem t :: (w.transports.eraseIdx slot).map slotItem))
      (hp' : List.Perm l' (slotItem o :: (w.impl.transports.eraseIdx slot).map slotItem)) =>
    ((hp.append hp').append_left (w.pending.map Pending.item)).trans
      (List.perm_middle.trans (List.Perm.cons _
        ((List.perm_middle.append_left (w.pending.map Pending.item)).trans List.perm_middle)))
  refine ⟨_, h.perm (hperm (map_perm _ ht) (map_perm _ ho)), fun usb' transport' old' h' => ?_⟩
  exact h'.perm (hperm (map_set_perm _ ht transport') (map_set_perm _ ho old')).symm

end Held

/-! ## Rounds -/

section

variable {w : World} {R : Error → World → Prop}

theorem after_call {α : Type} {x : Calls α} {Q : α → World → Prop} :
    After (call x) w Q R ↔
      After x w.usb (fun a usb' => Q a { w with usb := usb' })
        fun e usb' => R e { w with usb := usb' } := by
  unfold After
  rw [call, Program.exec_of]
  rcases x.exec w.usb with ⟨e | a, usb'⟩
  · rfl
  · rfl

theorem after_getPending {index : Nat} {Q : Pending → World → Prop} :
    After (getPending index) w Q R ↔ Q (w.pending.getD index {}) w := Iff.rfl

theorem after_setPending {index : Nat} {member : Pending} {Q : PUnit → World → Prop} :
    After (setPending index member) w Q R ↔
      Q ⟨⟩ { w with pending := w.pending.set index member } := Iff.rfl

/-- **A transport is destroyed**, if there is one. -/
theorem after_destroyTransport {usb : Usb} {items : List (Item Handle Fd)}
    {R : Error → Usb → Prop} {transport : Option LibusbTransport}
    (h : Tracked usb (slotItem transport :: items)) :
    After (destroyTransport transport) usb (fun _ usb' => Tracked usb' items) R := by
  cases transport with
  | none => exact Tracked.empty_iff.1 h
  | some transport =>
    rw [destroyTransport, after_bind]
    refine (after_letGo h).mono (fun _ usb' h' => ?_) fun _ _ h => h
    exact after_closeRetained h'

/-- What `cleanup` makes of a member. -/
def Pending.closed (member : Pending) : Pending :=
  { member with handle := none, claimed := member.claimed && member.handle.isNone }

theorem after_closePending (h : Held w) {index : Nat} {member : Pending}
    (hm : w.pending[index]? = some member) :
    After (closePending index) w
      (fun _ w' => Held w' ∧ w'.impl = w.impl ∧ w'.transports = w.transports ∧
        w'.pending = w.pending.set index member.closed) R := by
  obtain ⟨rest, hrest, hset⟩ := h.pending hm
  rw [closePending, after_bind, after_getPending, getD_of_getElem? hm, after_bind, after_call]
  refine (after_letGo hrest).mono (fun _ usb' h' => ?_) fun _ _ h => h
  exact ⟨hset usb' member.closed h', rfl, rfl, rfl⟩

/-- The loop of `cleanup`: the members from `n` on have no handles. -/
theorem after_cleanupFrom {n : Nat} (h : Held w) (hn : n ≤ w.pending.length)
    (hclosed : ∀ (index : Nat) (member : Pending), n ≤ index →
      w.pending[index]? = some member → member.handle = none) :
    After (cleanupFrom n) w
      (fun _ w' => Held w' ∧ Closed w' ∧ w'.impl = w.impl ∧ w'.transports = w.transports) R := by
  induction n generalizing w with
  | zero =>
    refine ⟨h, fun member hm => ?_, rfl, rfl⟩
    obtain ⟨index, hi⟩ := List.getElem?_of_mem hm
    exact hclosed index member (Nat.zero_le _) hi
  | succ n ih =>
    have hm := List.getElem?_eq_getElem (l := w.pending) (i := n) hn
    rw [cleanupFrom, after_bind]
    refine (after_closePending h hm).mono ?_ fun _ _ h => h
    rintro _ w₁ ⟨h₁, himpl, htransports, hpending⟩
    have hn₁ : n ≤ w₁.pending.length := by
      rw [hpending, List.length_set]
      omega
    refine (ih h₁ hn₁ ?_).mono ?_ fun _ _ h => h
    · intro index member hi hmember
      rw [hpending, List.getElem?_set] at hmember
      split at hmember
      · rw [if_pos (by omega)] at hmember
        cases hmember
        rfl
      · exact hclosed index member (by omega) hmember
    · rintro _ w₂ ⟨h₂, hclosed₂, himpl₂, htransports₂⟩
      exact ⟨h₂, hclosed₂, himpl₂.trans himpl, htransports₂.trans htransports⟩

/-- **`cleanup`.** -/
theorem after_cleanup (h : Held w) :
    After cleanup w
      (fun _ w' => Held w' ∧ Closed w' ∧ w'.impl = w.impl ∧ w'.transports = w.transports) R := by
  rw [cleanup, after_bind, after_get]
  refine after_cleanupFrom h (Nat.le_refl _) fun index member hi hm => ?_
  rw [List.getElem?_eq_none hi] at hm
  cases hm

/-- What a part of the functions leaves when it fails: the runtime is as it was. -/
structure Left (impl : Impl) (w : World) : Prop where
  held : Held w
  closed : Closed w
  impl_eq : w.impl = impl
  slots : w.transports.length = 2

theorem after_fail {α : Type} {impl : Impl} {error : Error} {Q : α → World → Prop} (h : Held w)
    (himpl : w.impl = impl) (hslots : w.transports.length = 2) :
    After (fail error) w Q fun _ => Left impl := by
  rw [fail, after_bind]
  refine (after_cleanup h).mono ?_ fun _ _ h => h
  rintro _ w' ⟨h', hclosed, himpl', htransports⟩
  exact ⟨h', hclosed, himpl'.trans himpl, by rw [htransports, hslots]⟩

/-- `reset` to null. -/
theorem after_resetTransport_none (h : Held w) {slot : Nat} (hslot : slot < w.transports.length) :
    After (resetTransport slot none) w
      (fun _ w' => Held w' ∧ w'.impl = w.impl ∧ w'.pending = w.pending ∧
        w'.transports = w.transports.set slot none) R := by
  obtain ⟨old, ht⟩ := exists_getElem? hslot
  obtain ⟨rest, hrest, hset⟩ := h.slot ht
  rw [resetTransport, after_bind, after_get, getD_of_getElem? ht, after_bind]
  refine after_call.2 ((after_destroyTransport hrest).mono (fun _ usb' h' => ?_) fun _ _ h => h)
  exact ⟨hset usb' none (Tracked.empty_iff.2 h'), rfl, rfl, rfl⟩

/-- The destructors of the members, of which those in `done` have no duplicate any more. -/
structure Destroying (impl : Impl) (slots : List (Option LibusbTransport)) (size : Nat)
    (done : List Nat) (w : World) : Prop where
  held : Held w
  closed : Closed w
  impl_eq : w.impl = impl
  transports : w.transports = slots
  length : w.pending.length = size
  retained : ∀ index ∈ done, ∀ member, w.pending[index]? = some member → member.retained = none

theorem Destroying.step {impl : Impl} {slots : List (Option LibusbTransport)} {size index : Nat}
    {done : List Nat} (h : Destroying impl slots size done w) (hi : index < size) :
    After (destroyPending index) w (fun _ => Destroying impl slots size (done ++ [index])) R := by
  obtain ⟨member, hm⟩ := exists_getElem? (l := w.pending) (by rw [h.length]; exact hi)
  have hnone : member.handle = none := h.closed member (List.mem_of_getElem? hm)
  obtain ⟨rest, hrest, hset⟩ := h.held.pending hm
  rw [destroyPending, after_bind, after_getPending, getD_of_getElem? hm, after_bind, after_call]
  rw [Pending.item, hnone] at hrest
  refine (after_closeRetained hrest).mono (fun _ usb' h' => ?_) fun _ _ h => h
  have hheld := hset usb' { member with retained := none } (by
    rw [Pending.item]
    dsimp only
    rw [hnone]
    exact Tracked.empty_iff.2 h')
  refine ⟨hheld, fun member' hm' => ?_, h.impl_eq, h.transports, ?_,
    fun index' hi' member' hm' => ?_⟩
  · rcases List.mem_or_eq_of_mem_set hm' with hm' | rfl
    · exact h.closed member' hm'
    · exact hnone
  · exact (List.length_set ..).trans h.length
  · rw [List.getElem?_set] at hm'
    split at hm'
    · split at hm'
      · cases hm'
        rfl
      · cases hm'
    · next hne =>
      refine h.retained index' ?_ member' hm'
      rcases List.mem_append.1 hi' with hi' | hi'
      · exact hi'
      · exact absurd (List.mem_singleton.1 hi').symm hne

/-- Items that hold nothing. -/
theorem Tracked.append_iff {usb : Usb} {empty items : List (Item Handle Fd)}
    (he : ∀ item ∈ empty, item.handle = none ∧ item.duplicate = none) :
    Tracked usb (empty ++ items) ↔ Tracked usb items := by
  induction empty with
  | nil => exact Iff.rfl
  | cons item empty ih =>
    obtain ⟨hh, hd⟩ := he item List.mem_cons_self
    obtain ⟨dup, handle, claimed⟩ := item
    cases hh
    cases hd
    exact Tracked.empty_iff.trans (ih fun item hi => he item (List.mem_cons_of_mem _ hi))

/-- **The destructors**: nothing is held any more but what the runtime holds. -/
theorem after_leaveScope (h : Held w) (hclosed : Closed w) (hslots : w.transports.length = 2) :
    After leaveScope w
      (fun _ w' => w'.impl = w.impl ∧ Tracked w'.usb w.impl.items) R := by
  rw [leaveScope, after_bind]
  refine (after_resetTransport_none h (by omega)).mono ?_ fun _ _ h => h
  rintro _ w₁ ⟨h₁, himpl₁, hpending₁, hslots₁⟩
  have hlength₁ : w₁.transports.length = 2 := by rw [hslots₁, List.length_set, hslots]
  rw [after_bind]
  refine (after_resetTransport_none h₁ (by omega)).mono ?_ fun _ _ h => h
  rintro _ w₂ ⟨h₂, himpl₂, hpending₂, hslots₂⟩
  have hnone : w₂.transports = [none, none] := by
    rw [hslots₂, hslots₁]
    obtain ⟨a, b, hab⟩ := List.length_eq_two.1 hslots
    rw [hab]
    rfl
  rw [after_bind, after_get, after_bind]
  have hclosed₂ : Closed w₂ := by
    rw [Closed, hpending₂, hpending₁]
    exact hclosed
  have hstart : Destroying w.impl [none, none] w₂.pending.length [] w₂ :=
    ⟨h₂, hclosed₂, himpl₂.trans himpl₁, hnone, rfl, nofun⟩
  refine (After.forM (Destroying w.impl [none, none] w₂.pending.length) ?_ hstart).mono ?_
    fun _ _ h => h
  · intro done index rest w₃ hl h₃
    have hi : index ∈ List.range w₂.pending.length := by
      rw [hl]
      exact List.mem_append_right _ List.mem_cons_self
    exact h₃.step (List.mem_range.1 hi)
  · intro _ w₃ h₃
    refine after_modify _ |>.2 ⟨h₃.impl_eq, ?_⟩
    have htracked : Tracked w₃.usb
        ((w₃.pending.map Pending.item ++ w₃.transports.map slotItem) ++ w₃.impl.items) := by
      rw [List.append_assoc]
      exact h₃.held
    rw [← h₃.impl_eq]
    refine (Tracked.append_iff fun item hi => ?_).1 htracked
    rcases List.mem_append.1 hi with hi | hi
    · obtain ⟨member, hm, rfl⟩ := List.mem_map.1 hi
      obtain ⟨index, hindex⟩ := List.getElem?_of_mem hm
      obtain ⟨hlt, -⟩ := List.getElem?_eq_some_iff.1 hindex
      refine ⟨h₃.closed member hm, h₃.retained index ?_ member hindex⟩
      rw [← h₃.length]
      exact List.mem_range.2 hlt
    · rw [h₃.transports] at hi
      rcases List.mem_pair.1 hi with rfl | rfl
      · exact ⟨rfl, rfl⟩
      · exact ⟨rfl, rfl⟩

/-! ## Claiming -/

theorem set_self {index : Nat} {member : Pending} (hm : w.pending[index]? = some member) :
    w.pending.set index member = w.pending := by
  obtain ⟨hi, rfl⟩ := List.getElem?_eq_some_iff.1 hm
  exact List.set_getElem_self hi

theorem getElem?_set_self {index : Nat} {member : Pending} (hm : w.pending[index]? = some member)
    (member' : Pending) : (w.pending.set index member')[index]? = some member' := by
  obtain ⟨hi, -⟩ := List.getElem?_eq_some_iff.1 hm
  exact List.getElem?_set_self hi

/-- The loop over `claim_interface`, when the interfaces of the members in `done` are claimed. -/
structure Claiming (impl : Impl) (indices done : List Nat) (w : World) : Prop where
  held : Held w
  impl_eq : w.impl = impl
  transports : w.transports = [none, none]
  members : ∀ index ∈ indices, ∃ member, w.pending[index]? = some member ∧
    member.handle.isSome = true ∧ (member.claimed = true ↔ index ∈ done)

theorem Claiming.step {impl : Impl} {indices done : List Nat} {index : Nat}
    {mapError : Int → Error} (h : Claiming impl indices done w) (hi : index ∈ indices)
    (hd : index ∉ done) :
    After (claimPending mapError index) w (fun _ => Claiming impl indices (done ++ [index]))
      fun _ => Left impl := by
  obtain ⟨member, hm, hsome, hclaimed⟩ := h.members index hi
  obtain ⟨handle, hhandle⟩ := Option.isSome_iff_exists.1 hsome
  obtain ⟨rest, hrest, hset⟩ := h.held.pending hm
  have hunclaimed : member.claimed = false := by
    cases hc : member.claimed with
    | false => rfl
    | true => exact absurd (hclaimed.1 hc) hd
  rw [Pending.item, hhandle, hunclaimed] at hrest
  rw [claimPending, after_bind, after_getPending, getD_of_getElem? hm, hhandle, after_bind,
    after_call]
  refine (after_claimInterface hrest).mono (fun result usb' h' => ?_) fun _ _ h => h
  by_cases hr : result = 0
  · rw [if_neg (not_not.2 hr), after_setPending]
    rw [decide_eq_true hr] at h'
    refine ⟨hset usb' { member with handle := some handle, claimed := true } h', h.impl_eq,
      h.transports, fun index' hi' => ?_⟩
    rw [List.mem_append, List.mem_singleton]
    by_cases heq : index' = index
    · subst heq
      exact ⟨_, getElem?_set_self hm _, rfl, iff_of_true rfl (.inr rfl)⟩
    · obtain ⟨member', hm', hsome', hclaimed'⟩ := h.members index' hi'
      refine ⟨member', ?_, hsome', hclaimed'.trans (or_iff_left heq).symm⟩
      exact (List.getElem?_set_ne (Ne.symm heq)).trans hm'
  · rw [if_pos hr]
    rw [decide_eq_false hr] at h'
    have hheld := hset usb' member (by rw [Pending.item, hhandle, hunclaimed]; exact h')
    rw [set_self hm] at hheld
    exact after_fail hheld h.impl_eq (by rw [h.transports]; rfl)

/-! ## Handing over -/

/-- Every transport has a handle, whose interface is claimed. -/
def Owning (slots : List (Option LibusbTransport)) : Prop :=
  ∀ transport : LibusbTransport, some transport ∈ slots →
    transport.handle.isSome = true ∧ transport.claimed = true

theorem Owning.none : Owning [none, none] := by
  intro transport ht
  rcases List.mem_pair.1 ht with ht | ht <;> cases ht

theorem Owning.set {slots : List (Option LibusbTransport)} (h : Owning slots) {slot : Nat}
    {new : Option LibusbTransport}
    (hnew : ∀ transport, new = some transport →
      transport.handle.isSome = true ∧ transport.claimed = true) :
    Owning (slots.set slot new) := by
  intro transport ht
  rcases List.mem_or_eq_of_mem_set ht with ht | ht
  · exact h transport ht
  · exact hnew transport ht.symm

/-- The loop that makes the transports, when the members in `done` have been handed over. -/
structure Handing (impl : Impl) (indices done : List Nat) (w : World) : Prop where
  held : Held w
  impl_eq : w.impl = impl
  slots : w.transports.length = 2
  owning : Owning w.transports
  members : ∀ index ∈ indices, index ∉ done → ∃ member, w.pending[index]? = some member ∧
    member.handle.isSome = true ∧ member.claimed = true

theorem Handing.step {impl : Impl} {indices done : List Nat} {index slot : Nat}
    (h : Handing impl indices done w) (hi : index ∈ indices) (hd : index ∉ done)
    (hslot : slot < 2) :
    After (handOver (index, slot)) w (fun _ => Handing impl indices (done ++ [index]))
      fun _ => Left impl := by
  obtain ⟨member, hm, hsome, hclaimed⟩ := h.members index hi hd
  obtain ⟨old, ht⟩ := exists_getElem? (l := w.transports) (by rw [h.slots]; exact hslot)
  rw [handOver, after_bind, after_getPending, getD_of_getElem? hm, after_bind, after_call]
  refine (after_quiet (fun _ => rfl) h.held).mono (fun made usb₁ h₁ => ?_) fun _ _ h => h
  have h₁ : Held { w with usb := usb₁ } := h₁
  obtain ⟨rest, hrest, hset⟩ := h₁.pending_slot hm ht
  rw [after_bind, resetTransport, after_bind, after_get, after_bind]
  dsimp only
  rw [getD_of_getElem? ht]
  refine after_call.2 ((after_destroyTransport hrest).mono (fun _ usb₂ h₂ => ?_) fun _ _ h => h)
  cases made with
  | false =>
    have hheld := hset usb₂ member none (Tracked.empty_iff.2 h₂)
    rw [set_self hm] at hheld
    exact after_fail hheld h.impl_eq ((List.length_set ..).trans h.slots)
  | true =>
    -- the member holds nothing any more, and the transport what the member has held
    have hheld := hset usb₂ { member with retained := none, handle := none, claimed := false }
      (some { handle := member.handle, retainedFd := member.retained }) (by
        refine Tracked.perm ?_ (.swap _ _ _)
        refine Tracked.empty_iff.2 ?_
        rw [Pending.item, hclaimed] at h₂
        exact h₂)
    refine ⟨hheld, h.impl_eq, (List.length_set ..).trans h.slots, h.owning.set ?_, ?_⟩
    · intro transport ht
      cases ht
      exact ⟨hsome, rfl⟩
    · intro index' hi' hd'
      rw [List.mem_append, List.mem_singleton, not_or] at hd'
      obtain ⟨member', hm', hmember'⟩ := h.members index' hi' hd'.1
      exact ⟨member', (List.getElem?_set_ne (Ne.symm hd'.2)).trans hm', hmember'⟩

/-! ## The end of both functions -/

/-- What a part of the functions leaves when it succeeds. -/
structure Taken (w : World) : Prop where
  held : Held w
  closed : Closed w
  slots : w.transports.length = 2
  owning : Owning w.impl.transports

/-- What is so while the runtime takes the transports over. -/
structure Moving (w : World) : Prop where
  held : Held w
  slots : w.transports.length = 2
  slots_impl : w.impl.transports.length = 2
  owning : Owning w.transports
  owning_impl : Owning w.impl.transports

theorem Moving.step (h : Moving w) {slot : Nat} (hslot : slot < 2) :
    After (moveTransport slot) w (fun _ => Moving) R := by
  obtain ⟨transport, ht⟩ := exists_getElem? (l := w.transports) (by rw [h.slots]; exact hslot)
  obtain ⟨old, ho⟩ := exists_getElem? (l := w.impl.transports)
    (by rw [h.slots_impl]; exact hslot)
  obtain ⟨rest, hrest, hset⟩ := h.held.slot_slot ht ho
  rw [moveTransport, after_bind, after_get, after_bind]
  dsimp only
  rw [getD_of_getElem? ht, getD_of_getElem? ho]
  refine after_call.2 ((after_destroyTransport (hrest.perm (.swap _ _ _))).mono
    (fun _ usb' h' => ?_) fun _ _ h => h)
  refine ⟨hset usb' none transport (Tracked.empty_iff.2 h'), (List.length_set ..).trans h.slots,
    (List.length_set ..).trans h.slots_impl, h.owning.set nofun, h.owning_impl.set fun t heq => ?_⟩
  exact h.owning t (heq ▸ List.mem_of_getElem? ht)

theorem after_adopt (h : Moving w) (group : Q3U4Group) (locations : List UsbLocation) :
    After (adopt group locations) w (fun _ => Taken) R := by
  rw [adopt, after_bind, after_modify, after_bind]
  have h₁ : Moving { w with impl := { w.impl with
      baseSerial := group.baseSerial, model := group.model } } :=
    ⟨h.held, h.slots, h.slots_impl, h.owning, h.owning_impl⟩
  refine (h₁.step (by omega)).mono (fun _ w₂ h₂ => ?_) fun _ _ h => h
  rw [after_bind]
  refine (h₂.step (by omega)).mono (fun _ w₃ h₃ => ?_) fun _ _ h => h
  rw [after_bind, after_modify]
  have h₄ : Held { w₃ with impl := { w₃.impl with
      locations := locations ++ w₃.impl.locations.drop locations.length } } := h₃.held
  refine (after_cleanup h₄).mono ?_ fun _ _ h => h
  rintro _ w₅ ⟨h₅, hclosed, himpl, htransports⟩
  refine ⟨h₅, hclosed, by rw [htransports]; exact h₃.slots, ?_⟩
  rw [himpl]
  exact h₃.owning_impl

/-! ## Opening -/

/-- The loops that open handles: the members before `index` have theirs, and those after it have
nothing yet. -/
structure Opening (impl : Impl) (size index : Nat) (member : Pending) (w : World) : Prop where
  held : Held w
  impl_eq : w.impl = impl
  transports : w.transports = [none, none]
  length : w.pending.length = size
  before : ∀ i < index, ∃ m, w.pending[i]? = some m ∧ m.handle.isSome = true ∧ m.claimed = false
  here : index < size → w.pending[index]? = some member
  later : ∀ i, index < i → i < size → w.pending[i]? = some {}

namespace Opening

variable {impl : Impl} {size index : Nat} {member : Pending}

/-- The member changes. -/
theorem set (h : Opening impl size index member w) (hi : index < size) {usb' : Usb}
    {member' : Pending}
    (hheld : Held { w with usb := usb', pending := w.pending.set index member' }) :
    Opening impl size index member'
      { w with usb := usb', pending := w.pending.set index member' } where
  held := hheld
  impl_eq := h.impl_eq
  transports := h.transports
  length := (List.length_set ..).trans h.length
  before i hlt := by
    obtain ⟨m, hm, hrest⟩ := h.before i hlt
    exact ⟨m, (List.getElem?_set_ne (Nat.ne_of_gt hlt)).trans hm, hrest⟩
  here _ := getElem?_set_self (h.here hi) member'
  later i hlt hs := (List.getElem?_set_ne (Nat.ne_of_lt hlt)).trans (h.later i hlt hs)

/-- On to the next member. -/
theorem next (h : Opening impl size index member w) (hi : index < size)
    (hsome : member.handle.isSome = true) (hclaimed : member.claimed = false) :
    Opening impl size (index + 1) {} w where
  held := h.held
  impl_eq := h.impl_eq
  transports := h.transports
  length := h.length
  before i hlt := by
    rcases Nat.lt_or_eq_of_le (Nat.le_of_lt_succ hlt) with hlt | rfl
    · exact h.before i hlt
    · exact ⟨member, h.here hi, hsome, hclaimed⟩
  here hs := h.later _ (Nat.lt_succ_self _) hs
  later i hlt hs := h.later i (Nat.lt_of_succ_lt hlt) hs

theorem fail {α : Type} {error : Error} {Q : α → World → Prop}
    (h : Opening impl size index member w) : After (fail error) w Q fun _ => Left impl :=
  after_fail h.held h.impl_eq (by rw [h.transports]; rfl)

/-- A call that opens and closes nothing. -/
theorem quiet (h : Opening impl size index member w) {α : Type} {x : Calls α} (hx : Quiet x) :
    After (call x) w (fun _ => Opening impl size index member) R :=
  after_call.2 ((hx w.usb w.items _ h.held).mono
    (fun _ _ h' => ⟨h', h.impl_eq, h.transports, h.length, h.before, h.here, h.later⟩)
    fun _ _ h => h)

/-- A round of the loop of `acquire_native`. -/
theorem native (h : Opening impl size index {} w) (hi : index < size) (platform : Platform)
    (candidate : DeviceCandidate) :
    After (openPending platform (candidate, index)) w
      (fun _ => Opening impl size (index + 1) {}) fun _ => Left impl := by
  obtain ⟨rest, hrest, hset⟩ := h.held.pending (h.here hi)
  rw [openPending, after_bind, after_call]
  refine (after_openDevice (Tracked.empty_iff.1 hrest) _).mono ?_ fun _ _ h => h
  rintro ⟨result, handle⟩ usb' h'
  dsimp only at h' ⊢
  rw [after_bind, after_getPending, getD_of_getElem? (h.here hi), after_bind, after_setPending]
  have h₁ := h.set hi (hset usb' { handle } h')
  split
  · exact h₁.fail
  · next hok =>
    rw [not_or] at hok
    exact h₁.next hi (Option.isSome_iff_ne_none.2 hok.2) rfl

/-- A round of the loop of `acquire_fds`. -/
theorem wrapped (h : Opening impl size index {} w) (hi : index < size) (fd : Int) :
    After (wrapPending (fd, index)) w
      (fun _ => Opening impl size (index + 1) {}) fun _ => Left impl := by
  obtain ⟨rest, hrest, hset⟩ := h.held.pending (h.here hi)
  rw [wrapPending, after_bind, after_call]
  refine (after_duplicate (Tracked.empty_iff.1 hrest) fd).mono ?_ fun _ _ h => h
  intro made usb₁ h₁
  have hopen := h.set hi (hset usb₁ { retained := made } h₁)
  cases made with
  | none =>
    dsimp only
    have hheld := hset usb₁ {} h₁
    rw [set_self (h.here hi)] at hheld
    exact after_fail hheld h.impl_eq (by rw [h.transports]; rfl)
  | some made =>
    dsimp only
    rw [after_bind, after_getPending, getD_of_getElem? (h.here hi), after_bind, after_call]
    change After (_ >>= _) { w with usb := usb₁ } _ _
    obtain ⟨rest₁, hrest₁, hset₁⟩ := hopen.held.pending (hopen.here hi)
    rw [after_bind, after_setPending, after_bind, after_call]
    refine (after_wrapSysDevice hrest₁).mono ?_ fun _ _ h => h
    rintro ⟨result, handle⟩ usb₂ h₂
    dsimp only at h₂ ⊢
    rw [after_bind, after_getPending, getD_of_getElem? (hopen.here hi), after_bind,
      after_setPending]
    have hwrapped := hopen.set hi (hset₁ usb₂ { retained := some made, handle } h₂)
    cases handle with
    | none => exact hwrapped.fail
    | some handle =>
      dsimp only
      split
      · exact hwrapped.fail
      · rw [after_bind]
        refine (hwrapped.quiet (observeWrappedHandle_quiet handle)).mono ?_ fun _ _ h => h
        intro observation w₃ h₃
        cases observation with
        | error error => exact h₃.fail
        | ok observation =>
          dsimp only
          split
          · exact h₃.fail
          · rw [after_bind, after_getPending, getD_of_getElem? (h₃.here hi), after_setPending]
            obtain ⟨rest₃, hrest₃, hset₃⟩ := h₃.held.pending (h₃.here hi)
            have hheld := hset₃ w₃.usb
              { retained := some made, handle := some handle, observation := observation } hrest₃
            exact (h₃.set hi hheld).next hi rfl rfl

end Opening

end

end Px4.Acquire
