import Px4.Device.Grouping

/-!
# A group and its candidates

What is grouped has a key, and its slot is one of the bridges of its model. A group is determined by
its candidates: its devices are the first ones of their slots, and its status says what the
candidates are (`Q3U4Group.Built`, and `Q3U4Group.StatusOk` after the last loop).
-/

namespace Px4.Device

/-! ## Keys -/

theorem deviceProfile_of_mem {profile : DeviceProfile} (h : profile ∈ kDeviceProfiles) :
    deviceProfile profile.model = profile ∧
    (profile.bridgeCount = 1 ∨ profile.bridgeCount = 2) := by
  revert profile
  decide

theorem mem_of_deviceProfileForUsbId {vendorId productId : UInt16} {profile : DeviceProfile}
    (h : deviceProfileForUsbId vendorId productId = some profile) : profile ∈ kDeviceProfiles := by
  unfold deviceProfileForUsbId at h
  split at h
  · cases h
  · exact List.mem_of_find?_eq_some h

/-- Every device has one or two bridges. -/
theorem bridgeCount_cases (model : DeviceModel) :
    (deviceProfile model).bridgeCount = 1 ∨ (deviceProfile model).bridgeCount = 2 := by
  cases model <;> decide

theorem parseQ3u4Serial_devId {serial : List UInt8} {parsed : ParsedQ3U4Serial}
    (h : parseQ3u4Serial serial = .ok parsed) : parsed.devId = 1 ∨ parsed.devId = 2 := by
  unfold parseQ3u4Serial at h
  split at h
  · cases h
  · split at h
    · cases h
    · split at h
      · cases h
      · cases h
        dsimp only
        split
        · exact .inl rfl
        · exact .inr rfl

/-- The slot of a key is one of the bridges of its model. -/
theorem groupKey_slot {observation : DeviceObservation} {key : GroupKey}
    (h : groupKey observation = .ok key) : key.slot < (deviceProfile key.model).bridgeCount := by
  unfold groupKey at h
  split at h
  · cases h
  · next profile hp =>
    obtain ⟨hprofile, hcount⟩ := deviceProfile_of_mem (mem_of_deviceProfileForUsbId hp)
    split at h
    · next htwo =>
      split at h
      · cases h
      · next parsed hparsed =>
        cases h
        have hd := parseQ3u4Serial_devId hparsed
        show parsed.devId - 1 < (deviceProfile profile.model).bridgeCount
        rw [hprofile, htwo]
        omega
    · split at h
      · cases h
      · cases h
        show 0 < (deviceProfile profile.model).bridgeCount
        rw [hprofile]
        omega

/-- What is grouped has a key. -/
theorem isGrouped_iff (observation : DeviceObservation) :
    isGrouped observation = true ↔ ∃ key, groupKey observation = .ok key := by
  unfold isGrouped validateQ3u4Observation
  cases hp : deviceProfileForUsbId observation.vendorId observation.productId with
  | none => simp [groupKey, hp]
  | some profile =>
    cases hk : groupKey observation with
    | error e => simp [Except.isOk, Except.toBool]
    | ok key =>
      simp only [Option.isNone_some, Bool.false_eq_true, if_false, Except.isOk, Except.toBool,
        Bool.not_true, Except.ok.injEq, exists_eq', iff_true]
      repeat' split
      all_goals rfl

/-! ## Groups and their candidates -/

namespace Q3U4Group

/-- The first candidate in a slot. -/
def first (g : Q3U4Group) (slot : Nat) : Option Candidate :=
  g.candidates.find? fun c => c.device = slot + 1

/-- Some slot has two or more candidates. -/
def HasDuplicate (g : Q3U4Group) : Prop :=
  ∃ slot, 2 ≤ g.candidates.countP fun c => c.device = slot + 1

/-- Some candidate is not usable. -/
def HasUnusable (g : Q3U4Group) : Prop :=
  ∃ c ∈ g.candidates, validateQ3u4Observation c.observation ≠ .usable

/-- A group as the loop has built it from its candidates. -/
structure Built (g : Q3U4Group) : Prop where
  keyed : ∀ c ∈ g.candidates, ∃ slot,
    groupKey c.observation = .ok ⟨g.baseSerial, slot, g.model⟩ ∧ c.device = slot + 1
  devices_length : g.devices.length = 2
  indices_length : g.candidateIndices.length = 2
  devices : ∀ slot < 2, g.devices.getD slot none = (g.first slot).map Candidate.observation
  indices : ∀ slot < 2, g.candidateIndices.getD slot none =
    (g.first slot).map Candidate.observationIndex
  duplicate : g.status = .duplicate ↔ g.HasDuplicate
  unusable : ¬g.HasDuplicate → (g.status = .invalidObservation ↔ g.HasUnusable)
  incomplete : ¬g.HasDuplicate → ¬g.HasUnusable → g.status = .incomplete

theorem Built.empty (key : GroupKey) :
    Built { baseSerial := key.baseSerial, model := key.model } where
  keyed := nofun
  devices_length := rfl
  indices_length := rfl
  devices slot hs := by
    match slot, hs with
    | 0, _ | 1, _ => rfl
  indices slot hs := by
    match slot, hs with
    | 0, _ | 1, _ => rfl
  duplicate := iff_of_false nofun (by rintro ⟨slot, h⟩; cases h)
  unusable _ := iff_of_false nofun (by rintro ⟨c, hc, -⟩; cases hc)
  incomplete _ _ := rfl

/-- The candidates after one more has joined. -/
theorem add_candidates (g : Q3U4Group) (slot index : Nat) (observation : DeviceObservation) :
    (g.add slot index observation).candidates =
      g.candidates ++ [⟨index, slot + 1, observation⟩] := by
  unfold add
  dsimp only
  repeat' split
  all_goals rfl

theorem add_key (g : Q3U4Group) (slot index : Nat) (observation : DeviceObservation) :
    (g.add slot index observation).baseSerial = g.baseSerial ∧
      (g.add slot index observation).model = g.model := by
  unfold add
  dsimp only
  repeat' split
  all_goals exact ⟨rfl, rfl⟩

theorem first_add (g : Q3U4Group) (slot index s : Nat) (observation : DeviceObservation) :
    (g.add slot index observation).first s =
      (g.first s).or (if slot = s then some ⟨index, slot + 1, observation⟩ else none) := by
  unfold first
  rw [add_candidates, List.find?_append]
  by_cases hs : slot = s <;> simp [hs]

theorem countP_add (g : Q3U4Group) (slot index s : Nat) (observation : DeviceObservation) :
    (g.add slot index observation).candidates.countP (fun c => c.device = s + 1) =
      (g.candidates.countP fun c => c.device = s + 1) + if slot = s then 1 else 0 := by
  rw [add_candidates, List.countP_append]
  by_cases hs : slot = s <;> simp [hs]

theorem first_isSome_iff (g : Q3U4Group) (slot : Nat) :
    (g.first slot).isSome = true ↔ 1 ≤ g.candidates.countP fun c => c.device = slot + 1 := by
  unfold first
  rw [List.find?_isSome, Nat.one_le_iff_ne_zero, ← Nat.pos_iff_ne_zero, List.countP_pos_iff]

/-- A slot gets its second candidate, or there was a duplicate before. -/
theorem hasDuplicate_add (g : Q3U4Group) (slot index : Nat) (observation : DeviceObservation) :
    (g.add slot index observation).HasDuplicate ↔
      g.HasDuplicate ∨ (g.first slot).isSome = true := by
  unfold HasDuplicate
  simp only [countP_add, first_isSome_iff]
  constructor
  · rintro ⟨s, hs⟩
    by_cases he : slot = s
    · subst he
      rw [if_pos rfl] at hs
      exact .inr (by omega)
    · rw [if_neg he] at hs
      exact .inl ⟨s, hs⟩
  · rintro (⟨s, hs⟩ | hslot)
    · exact ⟨s, by omega⟩
    · refine ⟨slot, ?_⟩
      rw [if_pos rfl]
      omega

theorem hasUnusable_add (g : Q3U4Group) (slot index : Nat) (observation : DeviceObservation) :
    (g.add slot index observation).HasUnusable ↔
      g.HasUnusable ∨ validateQ3u4Observation observation ≠ .usable := by
  unfold HasUnusable
  rw [add_candidates]
  simp [or_and_right, exists_or]

theorem add_taken {g : Q3U4Group} {slot : Nat} (index : Nat) (observation : DeviceObservation)
    (h : (g.devices.getD slot none).isSome = true) :
    g.add slot index observation =
      { g with
        candidates := g.candidates ++ [⟨index, slot + 1, observation⟩]
        status := .duplicate } := by
  unfold add
  dsimp only
  rw [if_pos h, if_neg (fun hc => hc.2 rfl)]

theorem add_free {g : Q3U4Group} {slot : Nat} (index : Nat) (observation : DeviceObservation)
    (h : ¬(g.devices.getD slot none).isSome = true) :
    g.add slot index observation =
      { g with
        candidates := g.candidates ++ [⟨index, slot + 1, observation⟩]
        devices := g.devices.set slot (some observation)
        candidateIndices := g.candidateIndices.set slot (some index)
        status :=
          if validateQ3u4Observation observation ≠ .usable ∧ g.status ≠ .duplicate then
            .invalidObservation
          else g.status } := by
  unfold add
  dsimp only
  rw [if_neg h]
  split <;> rfl

/-- The first candidate of a slot stays its first. -/
theorem map_first_add_taken {g : Q3U4Group} {slot index : Nat} {observation : DeviceObservation}
    (h : (g.first slot).isSome = true) (s : Nat) :
    (g.add slot index observation).first s = g.first s := by
  rw [first_add]
  by_cases hs : slot = s
  · subst hs
    obtain ⟨c, hc⟩ := Option.isSome_iff_exists.1 h
    rw [hc, Option.some_or]
  · rw [if_neg hs, Option.or_none]

/-- A list of slots with one of them set. -/
theorem getD_set {α : Type} {l : List (Option α)} (hl : l.length = 2)
    {slot s : Nat} (hslot : slot < 2) (a : α) : (l.set slot (some a)).getD s none =
    if slot = s then some a else l.getD s none := by
  rw [List.getD_eq_getElem?_getD, List.getElem?_set, List.getD_eq_getElem?_getD]
  by_cases hs : slot = s
  · subst hs
    simp [hl, hslot]
  · simp [hs]

theorem Built.add {g : Q3U4Group} (hb : g.Built) {slot : Nat} (index : Nat)
    {observation : DeviceObservation}
    (hk : groupKey observation = .ok ⟨g.baseSerial, slot, g.model⟩) (hslot : slot < 2) :
    (g.add slot index observation).Built := by
  have hdev := hb.devices slot hslot
  have htaken : (g.devices.getD slot none).isSome = (g.first slot).isSome := by
    rw [hdev, Option.isSome_map]
  have hkeyed : ∀ c ∈ (g.add slot index observation).candidates, ∃ s,
      groupKey c.observation = .ok ⟨g.baseSerial, s, g.model⟩ ∧ c.device = s + 1 := by
    intro c hc
    rw [add_candidates, List.mem_append, List.mem_singleton] at hc
    rcases hc with hc | rfl
    · exact hb.keyed c hc
    · exact ⟨slot, hk, rfl⟩
  have hdup := hasDuplicate_add g slot index observation
  have hun := hasUnusable_add g slot index observation
  obtain ⟨hserial, hmodel⟩ := add_key g slot index observation
  by_cases ht : (g.first slot).isSome = true
  · -- the slot is taken: the group has a duplicate
    have hfirst := @map_first_add_taken g slot index observation ht
    have heq := add_taken index observation (htaken.trans ht)
    have hdevices : (g.add slot index observation).devices = g.devices := by rw [heq]
    have hindices : (g.add slot index observation).candidateIndices = g.candidateIndices := by
      rw [heq]
    have hstatus : (g.add slot index observation).status = .duplicate := by rw [heq]
    have hdup' : (g.add slot index observation).HasDuplicate := hdup.2 (.inr ht)
    constructor
    · rw [hserial, hmodel]
      exact hkeyed
    · rw [hdevices]
      exact hb.devices_length
    · rw [hindices]
      exact hb.indices_length
    · intro s hs
      rw [hdevices, hfirst, hb.devices s hs]
    · intro s hs
      rw [hindices, hfirst, hb.indices s hs]
    · exact iff_of_true hstatus hdup'
    · intro hno
      exact absurd hdup' hno
    · intro hno
      exact absurd hdup' hno
  · -- the slot is free
    have heq := add_free index observation (htaken ▸ ht)
    have hnone : g.first slot = none := by
      rw [← Option.not_isSome_iff_eq_none]
      exact ht
    have hdevices : (g.add slot index observation).devices =
        g.devices.set slot (some observation) := by rw [heq]
    have hindices : (g.add slot index observation).candidateIndices =
        g.candidateIndices.set slot (some index) := by rw [heq]
    have hstatus : (g.add slot index observation).status =
        if validateQ3u4Observation observation ≠ .usable ∧ g.status ≠ .duplicate then
          .invalidObservation
        else g.status := by rw [heq]
    have hsame : (g.add slot index observation).HasDuplicate ↔ g.HasDuplicate :=
      hdup.trans (or_iff_left ht)
    have hfirst : ∀ s, (g.add slot index observation).first s =
        if slot = s then some ⟨index, slot + 1, observation⟩ else g.first s := by
      intro s
      rw [first_add]
      by_cases hs : slot = s
      · subst hs
        rw [hnone, if_pos rfl, Option.none_or]
      · rw [if_neg hs, if_neg hs, Option.or_none]
    constructor
    · rw [hserial, hmodel]
      exact hkeyed
    · rw [hdevices, List.length_set]
      exact hb.devices_length
    · rw [hindices, List.length_set]
      exact hb.indices_length
    · intro s hs
      rw [hdevices, hfirst, getD_set hb.devices_length hslot, hb.devices s hs]
      split <;> rfl
    · intro s hs
      rw [hindices, hfirst, getD_set hb.indices_length hslot, hb.indices s hs]
      split <;> rfl
    · rw [hstatus, hsame, ← hb.duplicate]
      split
      · next hu => exact iff_of_false nofun hu.2
      · exact Iff.rfl
    · intro hno
      rw [hsame] at hno
      rw [hstatus, hun]
      have hnd : g.status ≠ .duplicate := fun hd => hno (hb.duplicate.1 hd)
      by_cases hu : validateQ3u4Observation observation = .usable
      · rw [if_neg (fun hc => hc.1 hu), hb.unusable hno]
        exact (or_iff_left (not_not.2 hu)).symm
      · rw [if_pos ⟨hu, hnd⟩]
        exact iff_of_true rfl (.inr hu)
    · intro hno hnu
      rw [hsame] at hno
      rw [hun, not_or, not_not] at hnu
      rw [hstatus, if_neg (fun hc => hc.1 hnu.2)]
      exact hb.incomplete hno hnu.1

/-! ## The end of the loop -/

@[simp] theorem finish_candidates (g : Q3U4Group) : g.finish.candidates = g.candidates := by
  unfold finish
  split <;> rfl

@[simp] theorem finish_baseSerial (g : Q3U4Group) : g.finish.baseSerial = g.baseSerial := by
  unfold finish
  split <;> rfl

@[simp] theorem finish_model (g : Q3U4Group) : g.finish.model = g.model := by
  unfold finish
  split <;> rfl

@[simp] theorem finish_candidateIndices (g : Q3U4Group) :
    g.finish.candidateIndices = g.candidateIndices := by
  unfold finish
  split <;> rfl

/-- What the status of a group says. -/
structure StatusOk (g : Q3U4Group) : Prop where
  duplicate : g.status = .duplicate ↔ g.HasDuplicate
  unusable : ¬g.HasDuplicate → (g.status = .invalidObservation ↔ g.HasUnusable)
  ready : ¬g.HasDuplicate → ¬g.HasUnusable →
    (g.status = .ready ↔
      ∀ slot < (deviceProfile g.model).bridgeCount, ∃ c ∈ g.candidates, c.device = slot + 1)
  incomplete : ¬g.HasDuplicate → ¬g.HasUnusable → g.status ≠ .ready → g.status = .incomplete

/-- **The status of a group.** -/
theorem Built.finish {g : Q3U4Group} (hb : g.Built) : g.finish.StatusOk := by
  have hdup : g.finish.HasDuplicate ↔ g.HasDuplicate := by
    unfold HasDuplicate
    rw [finish_candidates]
  have hun : g.finish.HasUnusable ↔ g.HasUnusable := by
    unfold HasUnusable
    rw [finish_candidates]
  have hkept : (g.HasDuplicate ∨ g.HasUnusable) → g.finish.status = g.status := by
    intro h
    unfold Q3U4Group.finish
    rw [if_pos]
    by_cases hd : g.HasDuplicate
    · exact .inl (hb.duplicate.2 hd)
    · exact .inr ((hb.unusable hd).2 (h.resolve_left hd))
  have hset : ¬g.HasDuplicate → ¬g.HasUnusable → g.finish.status =
      if (List.range (deviceProfile g.model).bridgeCount).all fun slot =>
        (g.devices.getD slot none).isSome then .ready else .incomplete := by
    intro hd hu
    unfold Q3U4Group.finish
    rw [if_neg (by rw [hb.incomplete hd hu]; decide)]
  have hcomplete : ((List.range (deviceProfile g.model).bridgeCount).all fun slot =>
      (g.devices.getD slot none).isSome) = true ↔
        ∀ slot < (deviceProfile g.model).bridgeCount, ∃ c ∈ g.candidates, c.device = slot + 1 := by
    have htwo : (deviceProfile g.model).bridgeCount ≤ 2 := by
      rcases bridgeCount_cases g.model with h | h <;> omega
    rw [List.all_eq_true]
    simp only [List.mem_range]
    refine forall₂_congr fun slot hs => ?_
    rw [hb.devices slot (by omega), Option.isSome_map, first, List.find?_isSome]
    simp only [decide_eq_true_eq]
  constructor
  · rw [hdup]
    by_cases hd : g.HasDuplicate
    · rw [hkept (.inl hd)]
      exact hb.duplicate
    · refine iff_of_false ?_ hd
      by_cases hu : g.HasUnusable
      · rw [hkept (.inr hu), (hb.unusable hd).2 hu]
        decide
      · rw [hset hd hu]
        split <;> decide
  · intro hd
    rw [hdup] at hd
    rw [hun]
    by_cases hu : g.HasUnusable
    · rw [hkept (.inr hu)]
      exact hb.unusable hd
    · refine iff_of_false ?_ hu
      rw [hset hd hu]
      split <;> decide
  · intro hd hu
    rw [hdup] at hd
    rw [hun] at hu
    rw [hset hd hu, finish_model, finish_candidates, ← hcomplete]
    split
    · next h => exact iff_of_true rfl h
    · next h => exact iff_of_false nofun h
  · intro hd hu
    rw [hdup] at hd
    rw [hun] at hu
    rw [hset hd hu]
    split
    · exact fun h => absurd rfl h
    · exact fun _ => rfl

end Q3U4Group

end Px4.Device
