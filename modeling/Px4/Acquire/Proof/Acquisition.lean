import Px4.Acquire.Proof.Runtime
import Px4.Device.Proof.Selection

/-!
# Acquisition leaves nothing behind

* `after_acquireNative`, `after_acquireFds`: what the runtime holds is what is left of all calls,
  and after a failure the runtime is as it was.
* `acquire_leaves_nothing`: what this says of the handles, the interfaces and the duplicates.
-/

namespace Px4.Acquire

open Lib (Program StdSort)
open Lib.Program (After after_bind after_get after_modify)
open Lib.Custody (Item)
open Px4.Device

/-! ## The members that are selected -/

/-- A computation in two parts that has given a value. -/
theorem bind_eq_ok {α β : Type} {x : Result α} {f : α → Result β} {b : β}
    (h : (x >>= f) = .ok b) : ∃ a, x = .ok a ∧ f a = .ok b := by
  cases x with
  | ok a => exact ⟨a, rfl, h⟩
  | error e => cases h

/-- The values of a function that does not fail, position by position. -/
theorem mapM_getElem {α β ε : Type} {f : α → Except ε β} {l : List α} {l' : List β}
    (h : l.mapM f = .ok l') {i : Nat} {a : α} (ha : l[i]? = some a) :
    ∃ b, l'[i]? = some b ∧ f a = .ok b := by
  induction l generalizing l' i with
  | nil => cases ha
  | cons a' l ih =>
    rw [List.mapM_cons] at h
    cases hf : f a' with
    | error e =>
      rw [hf] at h
      cases h
    | ok b =>
      rw [hf] at h
      cases hl : l.mapM f with
      | error e =>
        rw [hl] at h
        cases h
      | ok bs =>
        rw [hl] at h
        cases h
        cases i with
        | zero =>
          cases ha
          exact ⟨b, rfl, hf⟩
        | succ i => exact ih hl ha

/-- What the loops of `acquire_fds` need of the members that are selected. -/
theorem chooseMembers_ok {std : StdSort} {observations : List DeviceObservation}
    {baseSerial : List UInt8} {group : Q3U4Group} {indices : List Nat}
    (h : chooseMembers std observations baseSerial = .ok (group, indices)) :
    indices.Nodup ∧ indices.length ≤ 2 ∧ ∀ index ∈ indices, index < observations.length := by
  obtain ⟨r, hr, hgrouping⟩ := groupQ3u4Devices_grouping std observations
  obtain ⟨r', hr', h⟩ := bind_eq_ok h
  cases hr.symm.trans hr'
  obtain ⟨index, hselect, h⟩ := bind_eq_ok h
  obtain ⟨g, hg, hready⟩ := selectReadyQ3u4Group_readyAt hselect
  rw [hg] at h
  obtain ⟨indices', hindices, h⟩ := bind_eq_ok h
  cases h
  obtain ⟨hlength, -, hmem⟩ := mapM_ok hindices
  rw [List.length_range] at hlength
  have htwo : indices.length ≤ 2 := by
    rcases bridgeCount_cases group.model with hc | hc <;> omega
  -- the members are the first candidates of the slots
  obtain ⟨chosen, hchosen⟩ := hgrouping.ready (List.mem_of_getElem? hg) hready
  have hat : ∀ slot (hs : slot < indices.length),
      indices[slot] = (chosen slot).observationIndex := by
    intro slot hs
    have hrange : (List.range (deviceProfile group.model).bridgeCount)[slot]? = some slot :=
      List.getElem?_range (by omega)
    obtain ⟨i, hi, hf⟩ := mapM_getElem hindices hrange
    rw [hchosen.index slot (by omega)] at hf
    dsimp only at hf
    split at hf
    · cases hf
    · cases hf
      rw [List.getElem?_eq_getElem hs] at hi
      exact Option.some.inj hi
  refine ⟨?_, htwo, fun i hi => ?_⟩
  · refine List.pairwise_iff_getElem.2 fun slot slot' hs hs' hlt heq => ?_
    rw [hat slot hs, hat slot' hs'] at heq
    have := hchosen.distinct slot (by omega) slot' (by omega) heq
    omega
  · obtain ⟨slot, -, hf⟩ := hmem i hi
    split at hf
    · cases hf
    · split at hf
      · cases hf
      · next hlt =>
        cases hf
        omega

/-- What `acquire_native` opens. -/
theorem chooseCandidates_length {std : StdSort} {candidates : List DeviceCandidate}
    {baseSerial : List UInt8} {usbPaths : Option (List (List UInt8))} {group : Q3U4Group}
    {chosen : List DeviceCandidate}
    (h : chooseCandidates std candidates baseSerial usbPaths = .ok (group, chosen)) :
    chosen.length ≤ 2 := by
  obtain ⟨r, hr, h⟩ := bind_eq_ok h
  split at h
  · cases h
  · split at h
    · cases h
    · obtain ⟨chosen', hchosen, h⟩ := bind_eq_ok h
      obtain ⟨u, hu, h⟩ := bind_eq_ok h
      cases h
      have hlength := (mapM_ok hchosen).1
      rw [List.length_range] at hlength
      rcases bridgeCount_cases group.model with hc | hc <;> omega

/-! ## Claiming and handing over -/

section

variable {w : World} {impl : Impl} {indices : List Nat}

theorem after_claims {mapError : Int → Error} (h : Claiming impl indices [] w)
    (hnodup : indices.Nodup) :
    After (indices.forM (claimPending mapError)) w (fun _ => Claiming impl indices indices)
      fun _ => Left impl := by
  refine After.forM (Claiming impl indices) (fun done index rest w' hl h' => ?_) h
  refine h'.step (hl ▸ List.mem_append_right _ List.mem_cons_self) fun hd => ?_
  rw [hl] at hnodup
  exact (List.nodup_append.1 hnodup).2.2 index hd index List.mem_cons_self rfl

theorem after_handOvers (h : Claiming impl indices indices w) (hnodup : indices.Nodup)
    (htwo : indices.length ≤ 2) :
    After (indices.zipIdx.forM handOver) w (fun _ => Handing impl indices indices)
      fun _ => Left impl := by
  have hstart : Handing impl indices ([] : List Nat) w := by
    refine ⟨h.held, h.impl_eq, by rw [h.transports]; rfl, h.transports ▸ Owning.none,
      fun index hi _ => ?_⟩
    · obtain ⟨member, hm, hsome, hclaimed⟩ := h.members index hi
      exact ⟨member, hm, hsome, hclaimed.2 hi⟩
  have hfst : indices.zipIdx.map Prod.fst = indices := List.zipIdx_map_fst ..
  refine (After.forM (fun done => Handing impl indices (done.map Prod.fst))
    (fun done entry rest w' hl h' => ?_) hstart).mono (fun _ w' h' => ?_) fun _ _ h => h
  · obtain ⟨index, slot⟩ := entry
    have hsplit : indices = done.map Prod.fst ++ index :: rest.map Prod.fst := by
      rw [← hfst, hl, List.map_append, List.map_cons]
    have hslot : slot < indices.length := by
      have hmem : (index, slot) ∈ indices.zipIdx := by
        rw [hl]
        exact List.mem_append_right _ List.mem_cons_self
      obtain ⟨hlt, -⟩ := List.getElem?_eq_some_iff.1 (List.mem_zipIdx_iff_getElem?.1 hmem)
      exact hlt
    rw [List.map_append]
    refine h'.step ?_ (fun hd => ?_) (by omega)
    · rw [hsplit]
      exact List.mem_append_right _ List.mem_cons_self
    · rw [hsplit] at hnodup
      exact (List.nodup_append.1 hnodup).2.2 index hd index List.mem_cons_self rfl
  · rwa [hfst] at h'

/-- The members that are opened may be claimed. -/
theorem Opening.claiming {size index : Nat} {member : Pending}
    (h : Opening impl size index member w) (hi : ∀ i ∈ indices, i < index) :
    Claiming impl indices [] w where
  held := h.held
  impl_eq := h.impl_eq
  transports := h.transports
  members i hmem := by
    obtain ⟨m, hm, hsome, hclaimed⟩ := h.before i (hi i hmem)
    exact ⟨m, hm, hsome, iff_of_false (by rw [hclaimed]; nofun) nofun⟩

/-- The runtime may take over what has been handed over. -/
theorem Handing.moving {done : List Nat} (h : Handing impl indices done w)
    (himpl : impl.transports = [none, none]) : Moving w where
  held := h.held
  slots := h.slots
  slots_impl := by rw [h.impl_eq, himpl]; rfl
  owning := h.owning
  owning_impl := by
    rw [h.impl_eq, himpl]
    exact Owning.none

/-- The end of both functions, from the first claim on. -/
theorem after_takeOver {mapError : Int → Error} {last : Acquiring Unit}
    (h : Claiming impl indices [] w) (hnodup : indices.Nodup) (htwo : indices.length ≤ 2)
    (himpl : impl.transports = [none, none])
    (hlast : ∀ w', Moving w' → After last w' (fun _ => Taken) fun _ => Left impl) :
    After (do
      indices.forM (claimPending mapError)
      indices.zipIdx.forM handOver
      last) w (fun _ => Taken) fun _ => Left impl := by
  rw [after_bind]
  refine (after_claims h hnodup).mono (fun _ w₁ h₁ => ?_) fun _ _ h => h
  rw [after_bind]
  refine (after_handOvers h₁ hnodup htwo).mono (fun _ w₂ h₂ => ?_) fun _ _ h => h
  exact hlast w₂ (h₂.moving himpl)

end

/-! ## Both functions -/

/-- A runtime before it has acquired anything. -/
structure Start (impl : Impl) (w : World) : Prop where
  held : Held w
  impl_eq : w.impl = impl
  pending : w.pending = []
  transports : w.transports = [none, none]
  empty : impl.transports = [none, none]

/-- What is left of the calls is what the runtime holds. -/
def Acquired (w : World) : Prop := Tracked w.usb w.impl.items ∧ Owning w.impl.transports

/-- And the runtime is as it was. -/
def Unchanged (impl : Impl) (w : World) : Prop := Tracked w.usb w.impl.items ∧ w.impl = impl

section

variable {w : World} {impl : Impl}

/-- The members before anything is opened. -/
theorem Start.opening (h : Start impl w) (size : Nat) :
    Opening impl size 0 {} { w with pending := List.replicate size {} } where
  held := by
    have hheld := h.held
    rw [Held, World.items, h.pending] at hheld
    refine (Tracked.append_iff fun item hi => ?_).2 hheld
    obtain ⟨member, hm, rfl⟩ := List.mem_map.1 hi
    rw [List.eq_of_mem_replicate hm]
    exact ⟨rfl, rfl⟩
  impl_eq := h.impl_eq
  transports := h.transports
  length := List.length_replicate
  before i hi := absurd hi (Nat.not_lt_zero i)
  here hs := List.getElem?_replicate_of_lt hs
  later i _ hs := List.getElem?_replicate_of_lt hs

/-- The position in a list that is run through with its positions. -/
theorem zipIdx_split {α : Type} {l : List α} {done rest : List (α × Nat)} {a : α} {k : Nat}
    (h : l.zipIdx = done ++ (a, k) :: rest) : k = done.length ∧ done.length < l.length := by
  have hget : l.zipIdx[done.length]? = some (a, k) := by
    rw [h, List.getElem?_append_right (Nat.le_refl _), Nat.sub_self]
    rfl
  rw [List.getElem?_zipIdx, Option.map_eq_some_iff] at hget
  obtain ⟨a', ha, heq⟩ := hget
  cases heq
  obtain ⟨hlt, -⟩ := List.getElem?_eq_some_iff.1 ha
  exact ⟨Nat.zero_add _, hlt⟩

/-- `acquire_native` from the declaration of `pending` on. -/
theorem Start.candidates (h : Start impl w) (platform : Platform) (group : Q3U4Group)
    {chosen : List DeviceCandidate} (htwo : chosen.length ≤ 2) :
    After (acquireCandidates platform group chosen) w (fun _ => Taken) fun _ => Left impl := by
  rw [acquireCandidates, after_bind, after_modify, after_bind]
  refine (After.forM (fun done => Opening impl 2 done.length {})
    (fun done entry rest w' hl h' => ?_) (h.opening 2)).mono (fun _ w' h' => ?_) fun _ _ h => h
  · obtain ⟨candidate, slot⟩ := entry
    obtain ⟨rfl, hlt⟩ := zipIdx_split hl
    rw [List.length_append]
    exact h'.native (by omega) platform candidate
  · rw [List.length_zipIdx] at h'
    refine after_takeOver (h'.claiming fun i hi => List.mem_range.1 hi) List.nodup_range
      (by rwa [List.length_range]) h.empty fun w'' h'' => after_adopt h'' group _

/-- `acquire_fds` from the declaration of `pending` on. -/
theorem Start.wrapped (h : Start impl w) (std : StdSort) (fds : List Int)
    (baseSerial : List UInt8) :
    After (acquireWrapped std fds baseSerial) w (fun _ => Taken) fun _ => Left impl := by
  rw [acquireWrapped, after_bind, after_modify, after_bind]
  refine (After.forM (fun done => Opening impl fds.length done.length {})
    (fun done entry rest w' hl h' => ?_) (h.opening _)).mono (fun _ w' h' => ?_) fun _ _ h => h
  · obtain ⟨fd, index⟩ := entry
    obtain ⟨rfl, hlt⟩ := zipIdx_split hl
    rw [List.length_append]
    exact h'.wrapped hlt fd
  · rw [after_bind, after_get]
    split
    · exact h'.fail
    · next group indices hchoose =>
      obtain ⟨hnodup, htwo, hlt⟩ := chooseMembers_ok hchoose
      rw [List.length_map, h'.length] at hlt
      rw [List.length_zipIdx] at h'
      refine after_takeOver (h'.claiming hlt) hnodup htwo h.empty fun w'' h'' => ?_
      rw [after_bind, after_get]
      exact after_adopt h'' group _

/-- **The scope is left.** -/
theorem after_leaving {x : Acquiring Unit} (hx : After x w (fun _ => Taken) fun _ => Left impl) :
    After (x.leaving leaveScope) w (fun _ => Acquired) fun _ => Unchanged impl := by
  refine hx.leaving (fun _ w' h' => ?_) fun _ w' h' => ?_
  · refine (after_leaveScope h'.held h'.closed h'.slots).mono ?_ fun _ _ h => h
    rintro _ w'' ⟨himpl, htracked⟩
    rw [Acquired, himpl]
    exact ⟨htracked, h'.owning⟩
  · refine (after_leaveScope h'.held h'.closed h'.slots).mono ?_ fun _ _ h => h
    rintro _ w'' ⟨himpl, htracked⟩
    rw [Unchanged, himpl]
    exact ⟨htracked, h'.impl_eq⟩

theorem Start.unchanged (h : Start impl w) : Unchanged impl w := by
  have hheld := h.held
  rw [Held, World.items, h.pending, h.transports] at hheld
  refine ⟨(Tracked.append_iff fun item hi => ?_).1 hheld, h.impl_eq⟩
  rcases List.mem_pair.1 hi with rfl | rfl
  · exact ⟨rfl, rfl⟩
  · exact ⟨rfl, rfl⟩

/-- A call that opens and closes nothing. -/
theorem Start.quiet (h : Start impl w) {α : Type} {x : Calls α} (hx : Quiet x)
    {R : Error → World → Prop} : After (call x) w (fun _ => Start impl) R :=
  after_call.2 ((hx w.usb w.items _ h.held).mono
    (fun _ _ h' => ⟨h', h.impl_eq, h.pending, h.transports, h.empty⟩) fun _ _ h => h)

/-- **`acquire_native`.** -/
theorem after_acquireNative (h : Start impl w) (platform : Platform) (std : StdSort)
    (baseSerial : List UInt8) (usbPaths : Option (List (List UInt8))) :
    After (acquireNative platform std baseSerial usbPaths) w (fun _ => Acquired)
      fun _ => Unchanged impl := by
  unfold acquireNative
  split
  · exact h.unchanged
  · rw [after_bind]
    have hdiscover : After (call (discover platform)) w (fun _ => Start impl)
        fun _ => Unchanged impl := by
      refine after_call.2 ((after_discover h.held platform).mono (fun _ usb' h' => ?_)
        fun _ usb' h' => ?_)
      · exact ⟨h', h.impl_eq, h.pending, h.transports, h.empty⟩
      · exact Start.unchanged ⟨h', h.impl_eq, h.pending, h.transports, h.empty⟩
    refine hdiscover.mono (fun discovery w₁ h₁ => ?_) fun _ _ h => h
    have hrest : After (acquireDiscovered platform std discovery baseSerial usbPaths) w₁
        (fun _ => Acquired) fun _ => Unchanged impl := by
      unfold acquireDiscovered
      split
      · exact h₁.unchanged
      · next hchoose =>
        exact after_leaving (h₁.candidates platform _ (chooseCandidates_length hchoose))
    refine hrest.leaving (fun _ w₂ h₂ => ?_) fun _ w₂ h₂ => ?_
    · exact after_call.2 ((destroy_quiet discovery w₂.usb _ _ h₂.1).mono
        (fun _ _ h' => ⟨h', h₂.2⟩) fun _ _ h => h)
    · exact after_call.2 ((destroy_quiet discovery w₂.usb _ _ h₂.1).mono
        (fun _ _ h' => ⟨h', h₂.2⟩) fun _ _ h => h)

theorem after_validateFds (h : Start impl w) (fds : List Int) :
    After (validateFds fds) w (fun _ => Start impl) fun _ => Start impl := by
  induction fds generalizing w with
  | nil => exact h
  | cons fd fds ih =>
    unfold validateFds
    split
    · exact h
    · rw [after_bind]
      refine (h.quiet (.ask fun _ => rfl)).mono (fun valid w₁ h₁ => ?_) fun _ _ h => h
      split
      · exact h₁
      · exact ih h₁

/-- **`acquire_fds`.** -/
theorem after_acquireFds (h : Start impl w) (platform : Platform) (std : StdSort)
    (fds : List Int) (baseSerial : List UInt8) :
    After (acquireFds platform std fds baseSerial) w (fun _ => Acquired)
      fun _ => Unchanged impl := by
  unfold acquireFds
  split
  · exact h.unchanged
  · rw [after_bind, after_get]
    split
    · exact h.unchanged
    · rw [after_bind]
      refine (after_validateFds h fds).mono (fun _ w₁ h₁ => ?_) fun _ _ h' => h'.unchanged
      exact after_leaving (h₁.wrapped std fds baseSerial)

end

/-! ## What is left behind -/

/-- A runtime before it acquires anything, and the calls to come. -/
def World.start (impl : Impl) (answer : List (Sigma Ask.Answer) → (q : Ask) → q.Answer) : World :=
  { usb := { answer }, impl := { impl with transports := [none, none] } }

/-- The transports that own a handle. -/
def Impl.owners (impl : Impl) (handle : Handle) : List LibusbTransport :=
  (impl.transports.filterMap id).filter fun transport => transport.handle = some handle

theorem start_start (impl : Impl) (answer) :
    Start { impl with transports := [none, none] } (.start impl answer) := by
  have hheld : Held (.start impl answer) := by
    rw [Held, ← List.append_nil (World.items _)]
    refine (Tracked.append_iff fun item hi => ?_).2 (Tracked.start answer)
    simp only [World.items, World.start, Impl.items, slotItem, List.map_cons, List.map_nil,
      List.nil_append, List.cons_append, List.mem_cons, List.not_mem_nil, or_false, or_self] at hi
    rw [hi]
    exact ⟨rfl, rfl⟩
  exact ⟨hheld, rfl, rfl, rfl, rfl⟩

/-- **An acquisition.** -/
theorem after_acquire (platform : Platform) (std : StdSort) (impl : Impl) (answer)
    (acquisition : Acquisition) :
    After (acquire platform std acquisition) (.start impl answer) (fun _ => Acquired)
      fun _ => Unchanged { impl with transports := [none, none] } := by
  cases acquisition with
  | native baseSerial usbPaths =>
    exact after_acquireNative (start_start impl answer) platform std baseSerial usbPaths
  | fds fds baseSerial =>
    exact after_acquireFds (start_start impl answer) platform std fds baseSerial

theorem Unchanged.acquired {impl : Impl} {w : World} (h : Unchanged impl w)
    (himpl : impl.transports = [none, none]) : Acquired w :=
  ⟨h.1, by rw [h.2, himpl]; exact Owning.none⟩

open Lib.Custody (holders keepers status use)

/-- Who holds a handle in the runtime. -/
theorem holders_items (impl : Impl) (handle : Handle) :
    holders handle impl.items = (impl.owners handle).map LibusbTransport.claimed := by
  unfold Impl.items Impl.owners
  induction impl.transports with
  | nil => rfl
  | cons transport transports ih =>
    cases transport with
    | none => exact ih
    | some transport =>
      rw [List.map_cons, List.filterMap_cons_some (f := id) (b := transport) rfl]
      by_cases hh : transport.handle = some handle
      · rw [Lib.Custody.holders_self (by exact hh), List.filter_cons_of_pos (by simpa using hh),
          List.map_cons, ih]
        rfl
      · rw [Lib.Custody.holders_other (by exact hh), List.filter_cons_of_neg (by simpa using hh),
          ih]

/-- Who keeps a duplicate in the runtime. -/
theorem mem_keepers {impl : Impl} {fd : Fd} {handle : Option Handle}
    (h : handle ∈ keepers fd impl.items) (ho : Owning impl.transports) :
    ∃ (transport : LibusbTransport) (owned : Handle), some transport ∈ impl.transports ∧
      transport.retainedFd = some fd ∧ transport.handle = some owned ∧ handle = some owned := by
  obtain ⟨item, hitem, rfl⟩ := List.mem_map.1 h
  obtain ⟨hmem, hfd⟩ := List.mem_filter.1 hitem
  obtain ⟨transport, ht, rfl⟩ := List.mem_map.1 hmem
  cases transport with
  | none => cases of_decide_eq_true hfd
  | some transport =>
    obtain ⟨owned, howned⟩ := Option.isSome_iff_exists.1 (ho transport ht).1
    exact ⟨transport, owned, ht, of_decide_eq_true hfd, howned, howned⟩

namespace Acquired

variable {w : World}

/-- A handle that has been opened has one owner, or has been closed. -/
theorem handle (h : Acquired w) {handle : Handle} {e : Lib.Custody.Event Handle Fd}
    (he : e ∈ events w.usb) (hh : e.handle = some handle) :
    (status handle (events w.usb) = .claimed ∧ (w.impl.owners handle).length = 1) ∨
      (status handle (events w.usb) = .closed ∧ w.impl.owners handle = []) := by
  have hheld := h.1.accounted.handles handle
  rw [holders_items] at hheld
  have hnever := Lib.Custody.status_ne_never he hh
  cases hs : status handle (events w.usb) with
  | never => exact absurd hs hnever
  | released | broken =>
    rw [hs] at hheld
    cases hheld
  | closed =>
    rw [hs] at hheld
    exact .inr ⟨rfl, List.map_eq_nil_iff.1 (Option.some.inj hheld).symm⟩
  | claimed =>
    rw [hs] at hheld
    refine .inl ⟨rfl, ?_⟩
    rw [← List.length_map, ← Option.some.inj hheld]
    rfl
  | opened =>
    -- the interfaces of all transports are claimed
    rw [hs] at hheld
    have hmem : false ∈ (w.impl.owners handle).map LibusbTransport.claimed := by
      rw [← Option.some.inj hheld]
      exact List.mem_singleton.2 rfl
    obtain ⟨transport, ht, hclaimed⟩ := List.mem_map.1 hmem
    obtain ⟨slot, hslot, heq⟩ := List.mem_filterMap.1 (List.mem_filter.1 ht).1
    rw [(h.2 transport (heq ▸ hslot)).2] at hclaimed
    cases hclaimed

/-- A duplicate that has been made has been closed, or is kept with the handle that is of it. -/
theorem duplicate (h : Acquired w) {fd : Fd} (hd : .duplicated fd ∈ events w.usb) :
    use fd (events w.usb) = .closed ∨
      ∃ (handle : Handle) (transport : LibusbTransport),
        use fd (events w.usb) = .used handle ∧ transport ∈ w.impl.owners handle ∧
          transport.retainedFd = some fd := by
  have hheld := h.1.accounted.duplicates fd
  have hstory := Lib.Custody.use_story fd (events w.usb)
  cases hu : use fd (events w.usb) with
  | never =>
    rw [hu] at hstory
    exact absurd rfl (hstory _ hd)
  | broken =>
    rw [hu] at hheld
    cases hheld
  | closed => exact .inl rfl
  | idle =>
    rw [hu] at hheld
    have hmem : none ∈ keepers fd w.impl.items := by
      rw [← Option.some.inj hheld]
      exact List.mem_singleton.2 rfl
    obtain ⟨_, _, _, _, _, hnone⟩ := mem_keepers hmem h.2
    cases hnone
  | used handle =>
    rw [hu] at hheld
    have hmem : some handle ∈ keepers fd w.impl.items := by
      rw [← Option.some.inj hheld]
      exact List.mem_singleton.2 rfl
    obtain ⟨transport, owned, ht, hfd, howned, heq⟩ := mem_keepers hmem h.2
    cases heq
    refine .inr ⟨handle, transport, rfl, List.mem_filter.2 ⟨?_, decide_eq_true howned⟩, hfd⟩
    exact List.mem_filterMap.2 ⟨_, ht, rfl⟩

end Acquired

/-- **Acquisition leaves nothing behind**, whatever libusb and the system calls return: a handle
that has been opened is owned by one transport of the runtime, or has been closed once; an interface
that has been claimed has then been released before; a duplicate has been closed once, after every
handle that is of it, or is kept by the transport that owns that handle; and after a failure the
runtime is as it was. -/
theorem acquire_leaves_nothing (platform : Platform) (std : StdSort) (impl : Impl)
    (answer : List (Sigma Ask.Answer) → (q : Ask) → q.Answer) (acquisition : Acquisition) :
    let start := World.start impl answer
    let outcome := (acquire platform std acquisition).exec start
    let runtime := outcome.2.impl
    let done := events outcome.2.usb
    (∀ (handle : Handle) (source : Option Fd), .opened handle source ∈ done →
      ((runtime.owners handle).length = 1 ∧ .closed handle ∉ done) ∨
        (runtime.owners handle = [] ∧ done.count (.closed handle) = 1)) ∧
    (∀ handle : Handle, .claimed handle ∈ done → runtime.owners handle = [] →
      done.count (.released handle) = 1 ∧
        [.claimed handle, .released handle, .closed handle].Sublist done) ∧
    (∀ fd : Fd, .duplicated fd ∈ done →
      (done.count (.closedDuplicate fd) = 1 ∧ ∀ handle : Handle,
        .opened handle (some fd) ∈ done → [.closed handle, .closedDuplicate fd].Sublist done) ∨
      (.closedDuplicate fd ∉ done ∧ ∃ (handle : Handle) (transport : LibusbTransport),
        .opened handle (some fd) ∈ done ∧ runtime.owners handle = [transport] ∧
          transport.retainedFd = some fd)) ∧
    ∀ error, outcome.1 = .error error → runtime = start.impl := by
  intro start outcome runtime done
  have hafter := after_acquire platform std impl answer acquisition
  have hacquired : Acquired outcome.2 :=
    (hafter.mono (fun _ _ h => h) fun _ _ h => Unchanged.acquired h rfl).last
  refine ⟨fun handle source hopened => ?_, fun handle hclaimed hnone => ?_, fun fd hfd => ?_,
    fun error herror => ?_⟩
  · rcases hacquired.handle hopened rfl with ⟨hs, hone⟩ | ⟨hs, hnone⟩
    · exact .inl ⟨hone, (Lib.Custody.story_claimed hs).2.2⟩
    · exact .inr ⟨hnone, (Lib.Custody.story_closed hs).1⟩
  · rcases hacquired.handle hclaimed rfl with ⟨-, hone⟩ | ⟨hs, -⟩
    · rw [hnone] at hone
      cases hone
    · exact (Lib.Custody.story_closed hs).2 hclaimed
  · have hstory := Lib.Custody.use_story fd done
    rcases hacquired.duplicate hfd with hu | ⟨handle, transport, hu, ht, hkept⟩
    · rw [hu] at hstory
      exact .inl hstory
    · rw [hu] at hstory
      refine .inr ⟨hstory.1, handle, transport, hstory.2.1, ?_, hkept⟩
      rcases hacquired.handle hstory.2.1 rfl with ⟨-, hone⟩ | ⟨-, hnone⟩
      · obtain ⟨owner, howner⟩ := List.length_eq_one_iff.1 hone
        rw [howner] at ht ⊢
        rw [List.mem_singleton.1 ht]
      · rw [hnone] at ht
        cases ht
  · exact (hafter.error (Prod.ext herror rfl)).2

end Px4.Acquire
