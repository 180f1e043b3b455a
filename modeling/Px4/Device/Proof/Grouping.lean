import Px4.Device.Proof.Group

/-!
# What is grouped

The grouping loop puts every observation that has a key into one group (`Placed`), by induction
along the sorted observations, whatever the sort makes of those that do not compare. `Grouping` is
what this says of the result.
-/

namespace Px4.Device

open Lib (StdSort)

/-! ## The loop -/

/-- The observations of a group with their indices. -/
def Q3U4Group.entries (g : Q3U4Group) : List (DeviceObservation × Nat) :=
  g.candidates.map fun c => (c.observation, c.observationIndex)

/-- The base serial and the model. -/
def Q3U4Group.key (g : Q3U4Group) : List UInt8 × DeviceModel := (g.baseSerial, g.model)

/-- Two groups of a model with two bridges have different keys. -/
def KeysApart (k k' : List UInt8 × DeviceModel) : Prop :=
  (deviceProfile k.2).bridgeCount = 2 → k ≠ k'

/-- The groups after some observations have been placed. -/
structure Placed (groups : List Q3U4Group) (entries : List (DeviceObservation × Nat)) : Prop where
  perm : (groups.flatMap Q3U4Group.entries).Perm entries
  built : ∀ g ∈ groups, g.Built
  nonempty : ∀ g ∈ groups, g.candidates ≠ []
  single : ∀ g ∈ groups, (deviceProfile g.model).bridgeCount = 1 → g.candidates.length = 1
  apart : (groups.map Q3U4Group.key).Pairwise KeysApart

theorem Placed.nil : Placed [] [] :=
  ⟨.refl _, nofun, nofun, nofun, .nil⟩

namespace Q3U4Group

theorem add_entries (g : Q3U4Group) (slot index : Nat) (observation : DeviceObservation) :
    (g.add slot index observation).entries = g.entries ++ [(observation, index)] := by
  simp [entries, add_candidates]

theorem add_key_eq (g : Q3U4Group) (slot index : Nat) (observation : DeviceObservation) :
    (g.add slot index observation).key = g.key := by
  obtain ⟨hs, hm⟩ := g.add_key slot index observation
  rw [key, key, hs, hm]

theorem new_entries (key : GroupKey) (index : Nat) (observation : DeviceObservation) :
    (new key index observation).entries = [(observation, index)] := by
  rw [new, add_entries, entries, List.map_nil, List.nil_append]

theorem new_key (key : GroupKey) (index : Nat) (observation : DeviceObservation) :
    (new key index observation).key = (key.baseSerial, key.model) := by
  rw [new, add_key_eq, Q3U4Group.key]

theorem new_built {key : GroupKey} {observation : DeviceObservation}
    (h : groupKey observation = .ok key) (index : Nat) : (new key index observation).Built := by
  refine (Built.empty key).add index h ?_
  have hslot := groupKey_slot h
  rcases bridgeCount_cases key.model with hc | hc <;> omega

end Q3U4Group

theorem placePaired_perm (key : GroupKey) (index : Nat) (observation : DeviceObservation)
    (groups : List Q3U4Group) :
    ((placePaired key index observation groups).flatMap Q3U4Group.entries).Perm
      (groups.flatMap Q3U4Group.entries ++ [(observation, index)]) := by
  induction groups with
  | nil =>
    rw [placePaired, List.flatMap_singleton, Q3U4Group.new_entries]
    exact .refl _
  | cons g groups ih =>
    unfold placePaired
    split
    · rw [List.flatMap_cons, List.flatMap_cons, Q3U4Group.add_entries, List.append_assoc,
        List.append_assoc]
      exact (List.perm_append_comm).append_left _
    · rw [List.flatMap_cons, List.flatMap_cons, List.append_assoc]
      exact ih.append_left _

/-- A group after `placePaired` was there, or has a new candidate, or is new. -/
theorem mem_placePaired {key : GroupKey} {index : Nat} {observation : DeviceObservation}
    {groups : List Q3U4Group} {g : Q3U4Group}
    (h : g ∈ placePaired key index observation groups) :
    g ∈ groups ∨ g = .new key index observation ∨
      ∃ g' ∈ groups, g'.baseSerial = key.baseSerial ∧ g'.model = key.model ∧
        g = g'.add key.slot index observation := by
  induction groups with
  | nil => exact .inr (.inl (List.mem_singleton.1 h))
  | cons g' groups ih =>
    unfold placePaired at h
    split at h
    · next hkey =>
      rcases List.mem_cons.1 h with rfl | h
      · exact .inr (.inr ⟨g', List.mem_cons_self, hkey.1, hkey.2, rfl⟩)
      · exact .inl (List.mem_cons_of_mem _ h)
    · rcases List.mem_cons.1 h with rfl | h
      · exact .inl List.mem_cons_self
      · rcases ih h with h | h | ⟨g'', hg, hrest⟩
        · exact .inl (List.mem_cons_of_mem _ h)
        · exact .inr (.inl h)
        · exact .inr (.inr ⟨g'', List.mem_cons_of_mem _ hg, hrest⟩)

/-- The keys stay, or the new one is at the end and was not there. -/
theorem placePaired_keys (key : GroupKey) (index : Nat) (observation : DeviceObservation)
    (groups : List Q3U4Group) :
    (placePaired key index observation groups).map Q3U4Group.key =
      if (key.baseSerial, key.model) ∈ groups.map Q3U4Group.key then groups.map Q3U4Group.key
      else groups.map Q3U4Group.key ++ [(key.baseSerial, key.model)] := by
  induction groups with
  | nil =>
    rw [placePaired, List.map_singleton, Q3U4Group.new_key]
    rfl
  | cons g groups ih =>
    have hkey : g.baseSerial = key.baseSerial ∧ g.model = key.model ↔
        (key.baseSerial, key.model) = g.key := by
      rw [Q3U4Group.key, Prod.mk.injEq, eq_comm, eq_comm (a := g.model)]
    unfold placePaired
    split
    · next h =>
      rw [List.map_cons, List.map_cons, Q3U4Group.add_key_eq, if_pos]
      rw [hkey.1 h]
      exact List.mem_cons_self
    · next h =>
      have hmem : (key.baseSerial, key.model) ∈ (g :: groups).map Q3U4Group.key ↔
          (key.baseSerial, key.model) ∈ groups.map Q3U4Group.key := by
        rw [List.map_cons, List.mem_cons]
        exact or_iff_right fun hc => h (hkey.2 hc)
      rw [List.map_cons, ih]
      by_cases hin : (key.baseSerial, key.model) ∈ groups.map Q3U4Group.key
      · rw [if_pos hin, if_pos (hmem.2 hin), List.map_cons]
      · rw [if_neg hin, if_neg (fun hc => hin (hmem.1 hc)), List.map_cons, List.cons_append]

/-- **A round** of the grouping loop. -/
theorem Placed.place {groups : List Q3U4Group} {entries : List (DeviceObservation × Nat)}
    (hp : Placed groups entries) {entry : DeviceObservation × Nat} {key : GroupKey}
    (hk : groupKey entry.1 = .ok key) :
    ∃ groups', Px4.Device.place groups entry = .ok groups' ∧
    Placed groups' (entries ++ [entry]) := by
  have hnew : (Q3U4Group.new key entry.2 entry.1).entries = [entry] := Q3U4Group.new_entries _ _ _
  have hnewk := Q3U4Group.new_key key entry.2 entry.1
  have hnewc : (Q3U4Group.new key entry.2 entry.1).candidates.length = 1 := by
    have := congrArg List.length hnew
    rwa [Q3U4Group.entries, List.length_map] at this
  have hnewb := Q3U4Group.new_built hk entry.2
  have hmodel : (Q3U4Group.new key entry.2 entry.1).model = key.model := congrArg Prod.snd hnewk
  unfold Px4.Device.place
  rw [hk]
  dsimp only
  split
  · next hone =>
    refine ⟨_, rfl, ?_, ?_, ?_, ?_, ?_⟩
    · rw [List.flatMap_append, List.flatMap_singleton, hnew]
      exact hp.perm.append_right _
    · intro g hg
      rcases List.mem_append.1 hg with hg | hg
      · exact hp.built g hg
      · rw [List.mem_singleton.1 hg]
        exact hnewb
    · intro g hg
      rcases List.mem_append.1 hg with hg | hg
      · exact hp.nonempty g hg
      · rw [List.mem_singleton.1 hg, ← List.length_pos_iff, hnewc]
        exact Nat.one_pos
    · intro g hg hc
      rcases List.mem_append.1 hg with hg | hg
      · exact hp.single g hg hc
      · rw [List.mem_singleton.1 hg]
        exact hnewc
    · rw [List.map_append, List.pairwise_append]
      refine ⟨hp.apart, List.pairwise_singleton _ _, ?_⟩
      intro k hkm k' hk' htwo heq
      rw [List.map_singleton, List.mem_singleton] at hk'
      rw [heq, hk', hnewk] at htwo
      rw [hone] at htwo
      cases htwo
  · next hone =>
    have htwo : (deviceProfile key.model).bridgeCount = 2 :=
      (bridgeCount_cases key.model).resolve_left hone
    refine ⟨_, rfl, ?_, ?_, ?_, ?_, ?_⟩
    · exact (placePaired_perm key entry.2 entry.1 groups).trans (hp.perm.append_right _)
    · intro g hg
      rcases mem_placePaired hg with hg | rfl | ⟨g', hg', hserial, hm, rfl⟩
      · exact hp.built g hg
      · exact hnewb
      · refine (hp.built g' hg').add entry.2 ?_ ?_
        · rw [hk, hserial, hm]
        · have := groupKey_slot hk
          omega
    · intro g hg
      rcases mem_placePaired hg with hg | rfl | ⟨g', hg', -, -, rfl⟩
      · exact hp.nonempty g hg
      · rw [← List.length_pos_iff, hnewc]
        exact Nat.one_pos
      · rw [Q3U4Group.add_candidates]
        exact List.append_ne_nil_of_right_ne_nil _ (List.cons_ne_nil _ _)
    · intro g hg hc
      rcases mem_placePaired hg with hg | rfl | ⟨g', hg', -, hm, rfl⟩
      · exact hp.single g hg hc
      · exact hnewc
      · rw [(g'.add_key _ _ _).2, hm] at hc
        exact absurd hc hone
    · rw [placePaired_keys]
      split
      · exact hp.apart
      · next hnot =>
        rw [List.pairwise_append]
        refine ⟨hp.apart, List.pairwise_singleton _ _, ?_⟩
        intro k hkm k' hk' _ heq
        rw [List.mem_singleton] at hk'
        rw [heq, hk'] at hkm
        exact hnot hkm

/-- **The loop**, by induction along the observations. -/
theorem Placed.foldlM {groups : List Q3U4Group} {done : List (DeviceObservation × Nat)}
    (hp : Placed groups done) {entries : List (DeviceObservation × Nat)}
    (h : ∀ entry ∈ entries, isGrouped entry.1 = true) :
    ∃ groups', entries.foldlM Px4.Device.place groups = .ok groups' ∧
      Placed groups' (done ++ entries) := by
  induction entries generalizing groups done with
  | nil => exact ⟨groups, rfl, by rwa [List.append_nil]⟩
  | cons entry entries ih =>
    obtain ⟨key, hk⟩ := (isGrouped_iff _).1 (h entry List.mem_cons_self)
    obtain ⟨groups₁, heq, hp₁⟩ := hp.place hk
    obtain ⟨groups', heq', hp'⟩ := ih hp₁ fun e he => h e (List.mem_cons_of_mem _ he)
    refine ⟨groups', ?_, ?_⟩
    · rw [List.foldlM_cons, heq]
      exact heq'
    · rwa [List.append_assoc, List.singleton_append] at hp'

/-! ## The result -/

/-- A group of the result. -/
structure Q3U4Group.Finished (g : Q3U4Group) : Prop where
  nonempty : g.candidates ≠ []
  keyed : ∀ c ∈ g.candidates, ∃ slot,
    groupKey c.observation = .ok ⟨g.baseSerial, slot, g.model⟩ ∧ c.device = slot + 1
  indices : ∀ slot < 2, g.candidateIndices.getD slot none =
    (g.first slot).map Candidate.observationIndex
  status : g.StatusOk
  single : (deviceProfile g.model).bridgeCount = 1 → g.candidates.length = 1

theorem Q3U4Group.Built.finished {g : Q3U4Group} (hb : g.Built) (hne : g.candidates ≠ [])
    (hsingle : (deviceProfile g.model).bridgeCount = 1 → g.candidates.length = 1) :
    g.finish.Finished where
  nonempty := by rwa [finish_candidates]
  keyed := by
    rw [finish_candidates, finish_baseSerial, finish_model]
    exact hb.keyed
  indices slot hs := by
    rw [finish_candidateIndices, hb.indices slot hs, first, first, finish_candidates]
  status := hb.finish
  single := by
    rw [finish_model, finish_candidates]
    exact hsingle

theorem KeysApart.symm {k k' : List UInt8 × DeviceModel} (h : KeysApart k k') : KeysApart k' k :=
  fun htwo heq => h (heq ▸ htwo) heq.symm

/-- What `group_q3u4_devices` gives. -/
structure Grouping (observations : List DeviceObservation) (r : GroupingResult) : Prop where
  grouped : (r.groups.flatMap Q3U4Group.entries).Perm
    (observations.zipIdx.filter fun entry => isGrouped entry.1)
  rejected : r.rejected = (observations.filter fun observation => !isGrouped observation).map
    fun observation => ⟨validateQ3u4Observation observation, observation⟩
  finished : ∀ g ∈ r.groups, g.Finished
  apart : (r.groups.map Q3U4Group.key).Pairwise KeysApart

/-- **The grouping** always has a result. -/
theorem groupQ3u4Devices_grouping (std : StdSort) (observations : List DeviceObservation) :
    ∃ r, groupQ3u4Devices std observations = .ok r ∧ Grouping observations r := by
  have hperm := std.perm (fun left right => observationLess left.1 right.1)
    (observations.zipIdx.filter fun entry => isGrouped entry.1)
  obtain ⟨groups, heq, hp⟩ := Placed.nil.foldlM fun entry he =>
    (List.mem_filter.1 (hperm.subset he)).2
  have hsort := std.perm groupLess (groups.map Q3U4Group.finish)
  have hentries : ∀ g : Q3U4Group, g.finish.entries = g.entries := fun g => by
    rw [Q3U4Group.entries, Q3U4Group.entries, Q3U4Group.finish_candidates]
  have hkeys : ∀ g : Q3U4Group, g.finish.key = g.key := fun g => by
    rw [Q3U4Group.key, Q3U4Group.key, Q3U4Group.finish_baseSerial, Q3U4Group.finish_model]
  unfold groupQ3u4Devices
  dsimp only
  rw [heq]
  refine ⟨_, rfl, ?_, rfl, ?_, ?_⟩
  · refine (hsort.flatMap_right _).trans ?_
    rw [List.flatMap_map]
    simp only [hentries]
    exact hp.perm.trans hperm
  · intro g hg
    obtain ⟨g₀, hg₀, rfl⟩ := List.mem_map.1 (hsort.subset hg)
    exact (hp.built g₀ hg₀).finished (hp.nonempty g₀ hg₀) (hp.single g₀ hg₀)
  · refine (hsort.map Q3U4Group.key).symm.pairwise ?_ KeysApart.symm
    rw [List.map_map]
    simp only [Function.comp_def, hkeys]
    exact hp.apart

/-- A group stands at one place only, if its model has two bridges. -/
theorem Grouping.index_eq {observations : List DeviceObservation} {r : GroupingResult}
    (h : Grouping observations r) {i j : Nat} {g g' : Q3U4Group} (hi : r.groups[i]? = some g)
    (hj : r.groups[j]? = some g') (htwo : (deviceProfile g.model).bridgeCount = 2)
    (hkey : g.key = g'.key) : i = j := by
  have hi' : (r.groups.map Q3U4Group.key)[i]? = some g.key := by rw [List.getElem?_map, hi]; rfl
  have hj' : (r.groups.map Q3U4Group.key)[j]? = some g'.key := by rw [List.getElem?_map, hj]; rfl
  obtain ⟨hil, hie⟩ := List.getElem?_eq_some_iff.1 hi'
  obtain ⟨hjl, hje⟩ := List.getElem?_eq_some_iff.1 hj'
  have hp := List.pairwise_iff_getElem.1 h.apart
  rcases Nat.lt_trichotomy i j with hlt | heq | hgt
  · have := hp i j hil hjl hlt
    rw [hie, hje] at this
    exact absurd hkey (this htwo)
  · exact heq
  · have := hp j i hjl hil hgt
    rw [hie, hje] at this
    exact absurd hkey (this.symm htwo)

/-- What is not grouped has no profile, or a serial that is not valid. -/
theorem not_isGrouped_iff (observation : DeviceObservation) :
    (!isGrouped observation) = true ↔ validateQ3u4Observation observation = .unsupported ∨
      validateQ3u4Observation observation = .invalidSerial := by
  unfold isGrouped
  rw [Bool.not_and, Bool.or_eq_true, bne, bne, Bool.not_not, Bool.not_not, beq_iff_eq, beq_iff_eq]

/-- An entry that has a key is in a group. -/
theorem Grouping.mem_entries {observations : List DeviceObservation} {r : GroupingResult}
    (h : Grouping observations r) {entry : DeviceObservation × Nat}
    (hentry : entry ∈ observations.zipIdx) {key : GroupKey} (hk : groupKey entry.1 = .ok key) :
    ∃ g ∈ r.groups, entry ∈ g.entries := by
  have hgrouped : entry ∈ observations.zipIdx.filter fun entry => isGrouped entry.1 :=
    List.mem_filter.2 ⟨hentry, (isGrouped_iff _).2 ⟨key, hk⟩⟩
  exact List.mem_flatMap.1 (h.grouped.mem_iff.2 hgrouped)

/-- The key of an entry is the one of its group. -/
theorem Grouping.key_eq {observations : List DeviceObservation} {r : GroupingResult}
    (h : Grouping observations r) {g : Q3U4Group} (hg : g ∈ r.groups)
    {entry : DeviceObservation × Nat} (hentry : entry ∈ g.entries) {key : GroupKey}
    (hk : groupKey entry.1 = .ok key) : g.key = (key.baseSerial, key.model) := by
  obtain ⟨c, hc, rfl⟩ := List.mem_map.1 hentry
  obtain ⟨slot, hkey, -⟩ := (h.finished g hg).keyed c hc
  cases hk.symm.trans hkey
  rfl

/-- Two observations of a model with two bridges are in one group exactly if their models and their
base serials are the same. -/
theorem Grouping.together_iff {observations : List DeviceObservation} {r : GroupingResult}
    (h : Grouping observations r) {entry entry' : DeviceObservation × Nat}
    (hentry : entry ∈ observations.zipIdx) (hentry' : entry' ∈ observations.zipIdx)
    {key key' : GroupKey} (hk : groupKey entry.1 = .ok key) (hk' : groupKey entry'.1 = .ok key')
    (htwo : (deviceProfile key.model).bridgeCount = 2) :
    (∃ g ∈ r.groups, entry ∈ g.entries ∧ entry' ∈ g.entries) ↔
      key.model = key'.model ∧ key.baseSerial = key'.baseSerial := by
  constructor
  · rintro ⟨g, hg, he, he'⟩
    have heq := (h.key_eq hg he hk).symm.trans (h.key_eq hg he' hk')
    exact ⟨congrArg Prod.snd heq, congrArg Prod.fst heq⟩
  · rintro ⟨hm, hs⟩
    obtain ⟨g, hg, he⟩ := h.mem_entries hentry hk
    obtain ⟨g', hg', he'⟩ := h.mem_entries hentry' hk'
    obtain ⟨i, hi⟩ := List.getElem?_of_mem hg
    obtain ⟨j, hj⟩ := List.getElem?_of_mem hg'
    have hkey := h.key_eq hg he hk
    have hsame : g.key = g'.key := by rw [hkey, h.key_eq hg' he' hk', hm, hs]
    have hmodel : g.model = key.model := congrArg Prod.snd hkey
    -- both groups have the key, and a group of two bridges stands at one place only
    obtain rfl := h.index_eq hi hj (by rw [hmodel, htwo]) hsame
    obtain rfl := Option.some.inj (hi.symm.trans hj)
    exact ⟨g, hg, he, he'⟩

/-- **Conservation**: the observations that are unsupported or have an invalid serial are rejected,
and every other one is a candidate of one group, in the slot of its serial; a model with one bridge
has a group for each device, a model with two bridges one for each base serial; and the status of a
group is what its candidates say. -/
theorem grouping_conserves (std : StdSort) (observations : List DeviceObservation) :
    ∃ r, groupQ3u4Devices std observations = .ok r ∧
      (∃ out : List (DeviceObservation × Nat),
        (∀ entry, entry ∈ out ↔ entry ∈ observations.zipIdx ∧
          (validateQ3u4Observation entry.1 = .unsupported ∨
            validateQ3u4Observation entry.1 = .invalidSerial)) ∧
        r.rejected = out.map (fun entry => ⟨validateQ3u4Observation entry.1, entry.1⟩) ∧
        (r.groups.flatMap Q3U4Group.entries ++ out).Perm observations.zipIdx) ∧
      (∀ g ∈ r.groups, g.candidates ≠ [] ∧ ∀ c ∈ g.candidates, ∃ slot,
        groupKey c.observation = .ok ⟨g.baseSerial, slot, g.model⟩ ∧ c.device = slot + 1) ∧
      (∀ g ∈ r.groups, (deviceProfile g.model).bridgeCount = 1 → g.candidates.length = 1) ∧
      (∀ (i j : Nat) (g g' : Q3U4Group) (c c' : Candidate) (key key' : GroupKey),
        r.groups[i]? = some g → r.groups[j]? = some g' → c ∈ g.candidates → c' ∈ g'.candidates →
        groupKey c.observation = .ok key → groupKey c'.observation = .ok key' →
        (deviceProfile key.model).bridgeCount = 2 →
          (i = j ↔ key.model = key'.model ∧ key.baseSerial = key'.baseSerial)) ∧
      (∀ entry ∈ observations.zipIdx, ∀ entry' ∈ observations.zipIdx, ∀ key key' : GroupKey,
        groupKey entry.1 = .ok key → groupKey entry'.1 = .ok key' →
        (deviceProfile key.model).bridgeCount = 2 →
          ((∃ g ∈ r.groups, entry ∈ g.entries ∧ entry' ∈ g.entries) ↔
            key.model = key'.model ∧ key.baseSerial = key'.baseSerial)) ∧
      ∀ g ∈ r.groups, g.StatusOk := by
  obtain ⟨r, hr, hg⟩ := groupQ3u4Devices_grouping std observations
  refine ⟨r, hr, ?_, fun g h => ⟨(hg.finished g h).nonempty, (hg.finished g h).keyed⟩,
    fun g h => (hg.finished g h).single, ?_, ?_, fun g h => (hg.finished g h).status⟩
  · refine ⟨observations.zipIdx.filter fun entry => !isGrouped entry.1, fun entry => ?_, ?_, ?_⟩
    · rw [List.mem_filter, not_isGrouped_iff]
    · have hmap : observations.zipIdx.map Prod.fst = observations := by
        rw [List.zipIdx_map_fst]
      rw [hg.rejected]
      nth_rewrite 1 [← hmap]
      rw [List.filter_map, List.map_map]
      rfl
    · exact (hg.grouped.append_right _).trans (List.filter_append_perm _ _)
  · intro i j g g' c c' key key' hi hj hc hc' hk hk' htwo
    obtain ⟨slot, hkey, -⟩ := (hg.finished g (List.mem_of_getElem? hi)).keyed c hc
    obtain ⟨slot', hkey', -⟩ := (hg.finished g' (List.mem_of_getElem? hj)).keyed c' hc'
    rw [hk] at hkey
    rw [hk'] at hkey'
    cases hkey
    cases hkey'
    constructor
    · rintro rfl
      rw [hi] at hj
      cases hj
      exact ⟨rfl, rfl⟩
    · rintro ⟨hm, hs⟩
      exact hg.index_eq hi hj htwo (Prod.ext hs hm)
  · intro entry hentry entry' hentry' key key' hk hk' htwo
    exact hg.together_iff hentry hentry' hk hk' htwo

end Px4.Device
