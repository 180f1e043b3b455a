import Mathlib.Data.List.Nodup
import Mathlib.Data.List.Pairwise
import Px4.Device.Proof.Order
import Px4.Device.Proof.Selection

/-!
# The order of enumeration

Another order of the observations renames their indices and nothing else. The grouping commutes with
a renaming, step by step (`place_rename`); the sorted observations are the same ones because all of
them compare (`Distinguished`), and so are the sorted groups.
-/

namespace Px4.Device

open Lib (StdSort StrictWeakOn)

/-- The locations are pairwise distinguished by `location_less`. -/
def Distinguished (observations : List DeviceObservation) : Prop :=
  observations.Pairwise fun a b =>
    locationLess a.location b.location = true ∨ locationLess b.location a.location = true

instance (observations : List DeviceObservation) : Decidable (Distinguished observations) :=
  inferInstanceAs (Decidable (observations.Pairwise _))

/-! ## Renaming -/

def Candidate.rename (ρ : Nat → Nat) (c : Candidate) : Candidate :=
  { c with observationIndex := ρ c.observationIndex }

/-- A group with its indices renamed. -/
def Q3U4Group.rename (ρ : Nat → Nat) (g : Q3U4Group) : Q3U4Group :=
  { g with
    candidateIndices := g.candidateIndices.map (Option.map ρ)
    candidates := g.candidates.map (Candidate.rename ρ) }

/-- An observation with its index renamed. -/
def renameEntry (ρ : Nat → Nat) (entry : DeviceObservation × Nat) : DeviceObservation × Nat :=
  (entry.1, ρ entry.2)

variable {ρ : Nat → Nat}

theorem Q3U4Group.add_rename (g : Q3U4Group) (slot index : Nat) (observation : DeviceObservation) :
    (g.rename ρ).add slot (ρ index) observation = (g.add slot index observation).rename ρ := by
  by_cases h : (g.devices.getD slot none).isSome = true
  · rw [add_taken index observation h]
    have h' : ((g.rename ρ).devices.getD slot none).isSome = true := h
    rw [add_taken (ρ index) observation h']
    simp [rename, Candidate.rename]
  · rw [add_free index observation h]
    have h' : ¬((g.rename ρ).devices.getD slot none).isSome = true := h
    rw [add_free (ρ index) observation h']
    simp only [rename, Candidate.rename, List.map_append, List.map_singleton, List.map_set,
      Option.map_some]
    rfl

theorem Q3U4Group.new_rename (key : GroupKey) (index : Nat) (observation : DeviceObservation) :
    new key (ρ index) observation = (new key index observation).rename ρ := by
  rw [new, new, ← add_rename]
  rfl

theorem placePaired_rename (key : GroupKey) (index : Nat) (observation : DeviceObservation)
    (groups : List Q3U4Group) :
    placePaired key (ρ index) observation (groups.map (Q3U4Group.rename ρ)) =
      (placePaired key index observation groups).map (Q3U4Group.rename ρ) := by
  induction groups with
  | nil => rw [List.map_nil, placePaired, placePaired, List.map_singleton, Q3U4Group.new_rename]
  | cons g groups ih =>
    rw [List.map_cons, placePaired, placePaired]
    have hkey : (g.rename ρ).baseSerial = g.baseSerial ∧ (g.rename ρ).model = g.model := ⟨rfl, rfl⟩
    rw [hkey.1, hkey.2]
    split
    · rw [List.map_cons, Q3U4Group.add_rename]
    · rw [List.map_cons, ih]

/-- **A round** of the grouping, with the indices renamed. -/
theorem place_rename (groups : List Q3U4Group) (entry : DeviceObservation × Nat) :
    place (groups.map (Q3U4Group.rename ρ)) (renameEntry ρ entry) =
      (place groups entry).map (List.map (Q3U4Group.rename ρ)) := by
  unfold place renameEntry
  dsimp only
  cases groupKey entry.1 with
  | error e => rfl
  | ok key =>
    dsimp only
    split
    · simp only [Except.map, List.map_append, List.map_singleton, Q3U4Group.new_rename]
    · simp only [Except.map, placePaired_rename]

theorem foldlM_rename (groups : List Q3U4Group) (entries : List (DeviceObservation × Nat)) :
    (entries.map (renameEntry ρ)).foldlM place (groups.map (Q3U4Group.rename ρ)) =
      (entries.foldlM place groups).map (List.map (Q3U4Group.rename ρ)) := by
  induction entries generalizing groups with
  | nil => rfl
  | cons entry entries ih =>
    rw [List.map_cons, List.foldlM_cons, List.foldlM_cons, place_rename]
    cases place groups entry with
    | error e => rfl
    | ok groups' => exact ih groups'

theorem Q3U4Group.finish_rename (g : Q3U4Group) : (g.rename ρ).finish = g.finish.rename ρ := by
  unfold finish
  have hstatus : (g.rename ρ).status = g.status := rfl
  rw [hstatus]
  split
  · rfl
  · rfl

theorem groupLess_rename (left right : Q3U4Group) :
    groupLess (left.rename ρ) (right.rename ρ) = groupLess left right := by
  unfold groupLess
  simp only [Q3U4Group.rename, List.head?_map]
  cases left.candidates.head? <;> cases right.candidates.head? <;> rfl

/-! ## The renaming of another order -/

/-- Where the observation of an index stands in `observations'`. -/
def movedTo (observations observations' : List DeviceObservation) (index : Nat) : Nat :=
  match observations[index]? with
  | some observation => observations'.idxOf observation
  | none => index

theorem Distinguished.nodup {observations : List DeviceObservation}
    (h : Distinguished observations) : observations.Nodup := by
  refine h.imp fun {a b} hab heq => ?_
  rw [heq, locationLess_iff, or_self] at hab
  exact lt_irrefl _ hab

theorem Distinguished.perm {observations observations' : List DeviceObservation}
    (h : Distinguished observations) (hp : observations'.Perm observations) :
    Distinguished observations' := hp.symm.pairwise h fun hab => hab.symm

/-- The renaming leads to the same observation. -/
theorem getElem?_movedTo {observations observations' : List DeviceObservation}
    (hp : observations'.Perm observations) (index : Nat) :
    observations'[movedTo observations observations' index]? = observations[index]? := by
  unfold movedTo
  cases h : observations[index]? with
  | none =>
    rw [List.getElem?_eq_none_iff] at h ⊢
    rw [hp.length_eq]
    exact h
  | some observation =>
    have hmem : observation ∈ observations' := hp.symm.subset (List.mem_of_getElem? h)
    rw [List.getElem?_idxOf hmem]

theorem zipIdx_map_idxOf {l : List DeviceObservation} (h : l.Nodup) :
    l.map (fun a => (a, l.idxOf a)) = l.zipIdx := by
  apply List.ext_getElem?
  intro i
  rw [List.getElem?_map, List.getElem?_zipIdx]
  cases hi : l[i]? with
  | none => rfl
  | some a =>
    obtain ⟨hlt, rfl⟩ := List.getElem?_eq_some_iff.1 hi
    simp [h.idxOf_getElem i hlt]

/-- The observations in another order, with their indices. -/
theorem zipIdx_perm {observations observations' : List DeviceObservation}
    (hp : observations'.Perm observations) (hn : observations'.Nodup) :
    observations'.zipIdx.Perm
      (observations.zipIdx.map (renameEntry (movedTo observations observations'))) := by
  have hmap : observations.zipIdx.map (renameEntry (movedTo observations observations')) =
      observations.map fun a => (a, observations'.idxOf a) := by
    have hfst : observations.map (fun a => (a, observations'.idxOf a)) =
        observations.zipIdx.map fun entry => (entry.1, observations'.idxOf entry.1) := by
      conv_lhs => rw [← List.zipIdx_map_fst 0 observations]
      rw [List.map_map]
      rfl
    rw [hfst]
    refine List.map_congr_left fun entry he => ?_
    have hat : observations[entry.2]? = some entry.1 := List.mem_zipIdx_iff_getElem?.1 he
    rw [renameEntry, movedTo, hat]
  rw [hmap, ← zipIdx_map_idxOf hn]
  exact hp.map _

/-! ## The sorts -/

/-- One index for one location. -/
theorem Distinguished.entry_eq {observations : List DeviceObservation}
    (h : Distinguished observations) {entry entry' : DeviceObservation × Nat}
    (he : entry ∈ observations.zipIdx) (he' : entry' ∈ observations.zipIdx)
    (hloc : entry.1.location.order = entry'.1.location.order) : entry = entry' := by
  obtain ⟨hlt, hat⟩ := List.getElem?_eq_some_iff.1 (List.mem_zipIdx_iff_getElem?.1 he)
  obtain ⟨hlt', hat'⟩ := List.getElem?_eq_some_iff.1 (List.mem_zipIdx_iff_getElem?.1 he')
  have hp := List.pairwise_iff_getElem.1 h
  have hindex : entry.2 = entry'.2 := by
    rcases Nat.lt_trichotomy entry.2 entry'.2 with hl | heq | hg
    · have := hp _ _ hlt hlt' hl
      rw [hat, hat', locationLess_iff, locationLess_iff, hloc, or_self] at this
      exact absurd this (lt_irrefl _)
    · exact heq
    · have := hp _ _ hlt' hlt hg
      rw [hat, hat', locationLess_iff, locationLess_iff, hloc, or_self] at this
      exact absurd this (lt_irrefl _)
  refine Prod.ext ?_ hindex
  rw [← hat, ← hat']
  simp only [hindex]

/-- **The sorted observations** are the same ones. -/
theorem sorted_rename (std std' : StdSort) {observations observations' : List DeviceObservation}
    (h : Distinguished observations) (hp : observations'.Perm observations) :
    std'.sort (fun left right => observationLess left.1 right.1)
        (observations'.zipIdx.filter fun entry => isGrouped entry.1) =
      (std.sort (fun left right => observationLess left.1 right.1)
        (observations.zipIdx.filter fun entry => isGrouped entry.1)).map
          (renameEntry (movedTo observations observations')) := by
  have hkey : ∀ entry ∈ observations.zipIdx.filter (fun entry => isGrouped entry.1),
      ∃ key, groupKey entry.1 = .ok key :=
    fun entry he => (isGrouped_iff _).1 (List.mem_filter.1 he).2
  refine StdSort.sort_map_eq std std' ?_ (fun _ _ _ _ => rfl) ?_ ?_
  · have hz := (zipIdx_perm hp (h.perm hp).nodup).filter fun entry => isGrouped entry.1
    rw [List.filter_map] at hz
    exact hz
  · exact StrictWeakOn.of_key (fun entry => entry.1.order) fun a ha b hb =>
      observationLess_iff_order (hkey a ha) (hkey b hb)
  · intro a ha b hb hab hba
    rw [← Bool.not_eq_true, observationLess_iff_order (hkey a ha) (hkey b hb), not_lt] at hab
    rw [← Bool.not_eq_true, observationLess_iff_order (hkey b hb) (hkey a ha), not_lt] at hba
    refine h.entry_eq (List.mem_of_mem_filter ha) (List.mem_of_mem_filter hb) ?_
    exact DeviceObservation.order_location (le_antisymm hba hab)

/-- An observation is in one group only. -/
theorem Placed.eq_of_mem {groups : List Q3U4Group} {entries : List (DeviceObservation × Nat)}
    (hp : Placed groups entries) (hn : entries.Nodup) {g g' : Q3U4Group} (hg : g ∈ groups)
    (hg' : g' ∈ groups) {entry : DeviceObservation × Nat} (he : entry ∈ g.entries)
    (he' : entry ∈ g'.entries) : g = g' := by
  have hnd := (hp.perm.nodup_iff).2 hn
  obtain ⟨-, hdisj⟩ := List.nodup_flatMap.1 hnd
  have hsymm : Std.Symm (Function.onFun List.Disjoint Q3U4Group.entries) :=
    ⟨fun _ _ hd _ ha ha' => hd ha' ha⟩
  by_contra hne
  exact hdisj.forall hg hg' hne he he'

/-- **The sorted groups** are the same ones. -/
theorem sortedGroups_rename (std std' : StdSort) {observations : List DeviceObservation}
    (h : Distinguished observations) {groups : List Q3U4Group}
    {entries : List (DeviceObservation × Nat)} (hp : Placed groups entries) (hn : entries.Nodup)
    (hsub : entries ⊆ observations.zipIdx) (ρ : Nat → Nat) :
    std'.sort groupLess ((groups.map (Q3U4Group.rename ρ)).map Q3U4Group.finish) =
      (std.sort groupLess (groups.map Q3U4Group.finish)).map (Q3U4Group.rename ρ) := by
  have hne : ∀ g ∈ groups.map Q3U4Group.finish, g.candidates ≠ [] := by
    intro g hg
    obtain ⟨g₀, hg₀, rfl⟩ := List.mem_map.1 hg
    rw [Q3U4Group.finish_candidates]
    exact hp.nonempty g₀ hg₀
  refine StdSort.sort_map_eq std std' ?_ (fun a _ b _ => groupLess_rename a b) ?_ ?_
  · rw [List.map_map, List.map_map]
    exact .of_eq (List.map_congr_left fun g _ => g.finish_rename)
  · exact StrictWeakOn.of_key Q3U4Group.order fun a ha b hb => groupLess_iff (hne a ha) (hne b hb)
  · intro a ha b hb hab hba
    rw [← Bool.not_eq_true, groupLess_iff (hne a ha) (hne b hb), not_lt] at hab
    rw [← Bool.not_eq_true, groupLess_iff (hne b hb) (hne a ha), not_lt] at hba
    have hfront : a.front.order = b.front.order :=
      congrArg (fun k => (ofLex (ofLex k).2).2) (le_antisymm hba hab)
    obtain ⟨g, hg, rfl⟩ := List.mem_map.1 ha
    obtain ⟨g', hg', rfl⟩ := List.mem_map.1 hb
    obtain ⟨c, cs, hc⟩ := List.exists_cons_of_ne_nil (hp.nonempty g hg)
    obtain ⟨c', cs', hc'⟩ := List.exists_cons_of_ne_nil (hp.nonempty g' hg')
    rw [Q3U4Group.front, Q3U4Group.front, Q3U4Group.finish_candidates,
      Q3U4Group.finish_candidates, hc, hc'] at hfront
    -- the first candidates are one observation, so the groups are one
    have hmem : (c.observation, c.observationIndex) ∈ g.entries := by
      rw [Q3U4Group.entries, hc]
      exact List.mem_cons_self
    have hmem' : (c'.observation, c'.observationIndex) ∈ g'.entries := by
      rw [Q3U4Group.entries, hc']
      exact List.mem_cons_self
    have hin : ∀ {e : DeviceObservation × Nat} {g : Q3U4Group}, g ∈ groups → e ∈ g.entries →
        e ∈ observations.zipIdx :=
      fun hg he => hsub (hp.perm.subset (List.mem_flatMap.2 ⟨_, hg, he⟩))
    have heq := h.entry_eq (hin hg hmem) (hin hg' hmem') hfront
    rw [hp.eq_of_mem hn hg hg' hmem (heq ▸ hmem')]

/-- **The grouping** of another order is the grouping with its indices renamed. -/
theorem groupQ3u4Devices_rename (std std' : StdSort)
    {observations observations' : List DeviceObservation} (h : Distinguished observations)
    (hp : observations'.Perm observations) :
    ∃ r r', groupQ3u4Devices std observations = .ok r ∧ Grouping observations r ∧
      groupQ3u4Devices std' observations' = .ok r' ∧
      r'.groups = r.groups.map (Q3U4Group.rename (movedTo observations observations')) ∧
      r'.rejected.Perm r.rejected := by
  obtain ⟨r, hr, hgrouping⟩ := groupQ3u4Devices_grouping std observations
  have hperm := std.perm (fun left right => observationLess left.1 right.1)
    (observations.zipIdx.filter fun entry => isGrouped entry.1)
  obtain ⟨groups, heq, hplaced⟩ := Placed.nil.foldlM fun entry he =>
    (List.mem_filter.1 (hperm.subset he)).2
  rw [List.nil_append] at hplaced
  have hzn : observations.zipIdx.Nodup := by
    refine List.Nodup.of_map Prod.fst ?_
    rw [List.zipIdx_map_fst]
    exact h.nodup
  have hn := (hperm.nodup_iff).2 (hzn.filter _)
  have hsub : std.sort (fun left right => observationLess left.1 right.1)
      (observations.zipIdx.filter fun entry => isGrouped entry.1) ⊆ observations.zipIdx :=
    fun e he => List.mem_of_mem_filter (hperm.subset he)
  have heq' : ((std'.sort (fun left right => observationLess left.1 right.1)
      (observations'.zipIdx.filter fun entry => isGrouped entry.1)).foldlM place [] :
        Result (List Q3U4Group)) =
      .ok (groups.map (Q3U4Group.rename (movedTo observations observations'))) := by
    rw [sorted_rename std std' h hp, ← List.map_nil, foldlM_rename, heq]
    rfl
  unfold groupQ3u4Devices at hr ⊢
  dsimp only at hr ⊢
  rw [heq] at hr
  rw [heq']
  cases hr
  refine ⟨_, _, by rw [heq], hgrouping, rfl, ?_, ?_⟩
  · exact sortedGroups_rename std std' h hplaced hn hsub _
  · exact (hp.filter _).map _

end Px4.Device
