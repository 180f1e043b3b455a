import Px4.Device.Proof.Grouping

/-!
# What is selected

A selection that succeeds has a usable candidate for every bridge of one enclosure: those of a group
that is ready, or the candidates that two paths stand for (`Chosen`).
-/

namespace Px4.Device

open Lib (StdSort)

/-- The candidates chosen for the slots of a group, whose indices are `index`. -/
structure Chosen (g : Q3U4Group) (index : Nat → Option Nat) (chosen : Nat → Candidate) : Prop where
  mem : ∀ slot < (deviceProfile g.model).bridgeCount, chosen slot ∈ g.candidates
  device : ∀ slot < (deviceProfile g.model).bridgeCount, (chosen slot).device = slot + 1
  usable : ∀ slot < (deviceProfile g.model).bridgeCount,
    validateQ3u4Observation (chosen slot).observation = .usable
  index : ∀ slot < (deviceProfile g.model).bridgeCount,
    index slot = some (chosen slot).observationIndex
  distinct : ∀ slot < (deviceProfile g.model).bridgeCount,
    ∀ slot' < (deviceProfile g.model).bridgeCount,
      (chosen slot).observationIndex = (chosen slot').observationIndex → slot = slot'

/-- The index of a candidate is that of its observation. -/
theorem Grouping.getElem? {observations : List DeviceObservation} {r : GroupingResult}
    (h : Grouping observations r) {g : Q3U4Group} (hg : g ∈ r.groups) {c : Candidate}
    (hc : c ∈ g.candidates) : observations[c.observationIndex]? = some c.observation := by
  have hmem : (c.observation, c.observationIndex) ∈ r.groups.flatMap Q3U4Group.entries :=
    List.mem_flatMap.2 ⟨g, hg, List.mem_map_of_mem hc⟩
  exact List.mem_zipIdx_iff_getElem?.1 (List.mem_of_mem_filter (h.grouped.subset hmem))

/-- Candidates of one group with one index have one device number. -/
theorem Grouping.device_eq {observations : List DeviceObservation} {r : GroupingResult}
    (h : Grouping observations r) {g : Q3U4Group} (hg : g ∈ r.groups) {c c' : Candidate}
    (hc : c ∈ g.candidates) (hc' : c' ∈ g.candidates)
    (heq : c.observationIndex = c'.observationIndex) : c.device = c'.device := by
  have ho := h.getElem? hg hc
  rw [heq, h.getElem? hg hc'] at ho
  obtain ⟨slot, hk, hd⟩ := (h.finished g hg).keyed c hc
  obtain ⟨slot', hk', hd'⟩ := (h.finished g hg).keyed c' hc'
  rw [← Option.some.inj ho, hk'] at hk
  cases hk
  rw [hd, hd']

/-! ## A group that is ready -/

/-- The first candidates of a group that is ready. -/
theorem Grouping.ready {observations : List DeviceObservation} {r : GroupingResult}
    (h : Grouping observations r) {g : Q3U4Group} (hg : g ∈ r.groups) (hready : g.status = .ready) :
    ∃ chosen, Chosen g (fun slot => g.candidateIndices.getD slot none) chosen := by
  have hf := h.finished g hg
  have hdup : ¬g.HasDuplicate := fun hd => by
    rw [hf.status.duplicate.2 hd] at hready
    cases hready
  have hun : ¬g.HasUnusable := fun hu => by
    rw [(hf.status.unusable hdup).2 hu] at hready
    cases hready
  have hfull := (hf.status.ready hdup hun).1 hready
  have htwo : (deviceProfile g.model).bridgeCount ≤ 2 := by
    rcases bridgeCount_cases g.model with hc | hc <;> omega
  obtain ⟨c₀, hc₀⟩ := List.exists_mem_of_ne_nil _ hf.nonempty
  have hfirst : ∀ slot < (deviceProfile g.model).bridgeCount,
      g.first slot = some ((g.first slot).getD c₀) := by
    intro slot hs
    obtain ⟨c, hc, hd⟩ := hfull slot hs
    have hsome : (g.first slot).isSome = true :=
      List.find?_isSome.2 ⟨c, hc, decide_eq_true hd⟩
    obtain ⟨c', hc'⟩ := Option.isSome_iff_exists.1 hsome
    rw [hc', Option.getD_some]
  have hmem : ∀ slot < (deviceProfile g.model).bridgeCount,
      (g.first slot).getD c₀ ∈ g.candidates :=
    fun slot hs => List.mem_of_find?_eq_some (hfirst slot hs)
  have hdevice : ∀ slot < (deviceProfile g.model).bridgeCount,
      ((g.first slot).getD c₀).device = slot + 1 := fun slot hs => by
    simpa using List.find?_some (hfirst slot hs)
  refine ⟨fun slot => (g.first slot).getD c₀, hmem, hdevice, ?_, ?_, ?_⟩
  · intro slot hs
    by_contra hc
    exact hun ⟨_, hmem slot hs, hc⟩
  · intro slot hs
    rw [hf.indices slot (by omega), hfirst slot hs]
    rfl
  · intro slot hs slot' hs' heq
    have := h.device_eq hg (hmem slot hs) (hmem slot' hs') heq
    rw [hdevice slot hs, hdevice slot' hs'] at this
    exact Nat.succ.inj this

/-! ## By serial -/

/-- The group at an index is ready. -/
def ReadyAt (grouping : GroupingResult) (index : Nat) : Prop :=
  ∃ g, grouping.groups[index]? = some g ∧ g.status = .ready

/-- The loop keeps the index of a group that is ready, once it has seen one. -/
theorem readyScan_selected (grouping : GroupingResult) (baseSerial : List UInt8) :
    let scan := grouping.groups.zipIdx.foldl (ReadyScan.step baseSerial) {}
    (baseSerial ≠ [] → 0 < scan.matchingReadyCount → ReadyAt grouping scan.selected) ∧
      (baseSerial = [] → 0 < scan.readyCount → ReadyAt grouping scan.selected) := by
  refine List.foldlRecOn
    (motive := fun scan : ReadyScan =>
      (baseSerial ≠ [] → 0 < scan.matchingReadyCount → ReadyAt grouping scan.selected) ∧
        (baseSerial = [] → 0 < scan.readyCount → ReadyAt grouping scan.selected)) _ _
    ⟨fun _ h => absurd h (by decide), fun _ h => absurd h (by decide)⟩ ?_
  rintro scan ⟨hm, hr⟩ ⟨g, index⟩ hmem
  have hat : grouping.groups[index]? = some g := List.mem_zipIdx_iff_getElem?.1 hmem
  unfold ReadyScan.step
  dsimp only
  by_cases hready : g.status = .ready
  · rw [if_neg (not_not.2 hready)]
    by_cases hs : baseSerial = [] ∨ g.baseSerial = baseSerial
    · rw [if_pos hs]
      exact ⟨fun _ _ => ⟨g, hat, hready⟩, fun _ _ => ⟨g, hat, hready⟩⟩
    · rw [if_neg hs]
      rw [not_or] at hs
      rw [if_neg (fun hc => hs.2 hc.2)]
      exact ⟨hm, fun hc => absurd hc hs.1⟩
  · rw [if_pos hready, if_neg hready]
    split
    · exact ⟨hm, hr⟩
    · exact ⟨hm, hr⟩

theorem selectReadyQ3u4Group_readyAt {grouping : GroupingResult} {baseSerial : List UInt8}
    {index : Nat} (h : selectReadyQ3u4Group grouping baseSerial = .ok index) :
    ReadyAt grouping index := by
  obtain ⟨hm, hr⟩ := readyScan_selected grouping baseSerial
  unfold selectReadyQ3u4Group at h
  split at h
  · cases h
  · dsimp only at h
    split at h
    · next hne =>
      split at h
      · cases h
      · split at h
        · next hone =>
          cases h
          exact hm hne (by omega)
        · cases h
    · next he =>
      split at h
      · cases h
      · split at h
        · next hone =>
          cases h
          exact hr (not_not.1 he) (by omega)
        · cases h

/-! ## By USB paths -/

/-- A path stands for one candidate among all candidates of all groups. -/
def MatchesOne (grouping : GroupingResult) (text : List UInt8) (hit : Hit) : Prop :=
  ∃ path, parseUsbPath text = .ok path ∧
    (grouping.hits.filter fun hit => pathMatches path hit.candidate.observation.location) = [hit]

theorem locate_ok {grouping : GroupingResult} {text : List UInt8} {hit : Hit}
    (h : locate grouping text = .ok hit) : MatchesOne grouping text hit := by
  unfold locate at h
  split at h
  · cases h
  · next path hp =>
    split at h
    · cases h
    · next hit' hf =>
      cases h
      exact ⟨path, hp, hf⟩
    · cases h

theorem MatchesOne.mem {grouping : GroupingResult} {text : List UInt8} {hit : Hit}
    (h : MatchesOne grouping text hit) :
    grouping.groups[hit.groupIndex]? = some hit.group ∧ hit.candidate ∈ hit.group.candidates := by
  obtain ⟨path, -, hf⟩ := h
  have hmem : hit ∈ grouping.hits := List.mem_of_mem_filter (hf ▸ List.mem_singleton.2 rfl)
  obtain ⟨⟨g, index⟩, hg, hmap⟩ := List.mem_flatMap.1 hmem
  obtain ⟨c, hc, rfl⟩ := List.mem_map.1 hmap
  exact ⟨List.mem_zipIdx_iff_getElem?.1 hg, hc⟩

/-- What a function that does not fail makes of the elements of a list. -/
theorem mapM_ok {α β ε : Type} {f : α → Except ε β} {l : List α} {l' : List β}
    (h : l.mapM f = .ok l') :
    l'.length = l.length ∧ (∀ a ∈ l, ∃ b ∈ l', f a = .ok b) ∧ ∀ b ∈ l', ∃ a ∈ l, f a = .ok b := by
  induction l generalizing l' with
  | nil =>
    cases h
    exact ⟨rfl, nofun, nofun⟩
  | cons a l ih =>
    rw [List.mapM_cons] at h
    cases ha : f a with
    | error e =>
      rw [ha] at h
      cases h
    | ok b =>
      rw [ha] at h
      cases hl : l.mapM f with
      | error e =>
        rw [hl] at h
        cases h
      | ok bs =>
        rw [hl] at h
        cases h
        obtain ⟨hlen, hleft, hright⟩ := ih hl
        refine ⟨congrArg Nat.succ hlen, ?_, ?_⟩
        · intro x hx
          rcases List.mem_cons.1 hx with rfl | hx
          · exact ⟨b, List.mem_cons_self, ha⟩
          · obtain ⟨y, hy, hxy⟩ := hleft x hx
            exact ⟨y, List.mem_cons_of_mem _ hy, hxy⟩
        · intro y hy
          rcases List.mem_cons.1 hy with rfl | hy
          · exact ⟨a, List.mem_cons_self, ha⟩
          · obtain ⟨x, hx, hxy⟩ := hright y hy
            exact ⟨x, List.mem_cons_of_mem _ hx, hxy⟩

/-- The slots of a group that is ready are taken one after the other. -/
theorem takeSlots_ok {g : Q3U4Group} {selected : SelectedQ3U4Group} {groupIndex : Nat}
    (h : (List.range (deviceProfile g.model).bridgeCount).foldlM (takeSlots g)
      { groupIndex } = .ok selected) :
    selected.groupIndex = groupIndex ∧
      ∀ slot < (deviceProfile g.model).bridgeCount,
        selected.candidateIndices[slot]? = g.candidateIndices.getD slot none := by
  rcases bridgeCount_cases g.model with hc | hc
  · rw [hc] at h ⊢
    simp only [List.range_succ, List.range_zero, List.nil_append, List.foldlM_cons,
      List.foldlM_nil, takeSlots] at h
    cases h0 : g.candidateIndices.getD 0 none with
    | none =>
      rw [h0] at h
      cases h
    | some i =>
      rw [h0] at h
      cases h
      refine ⟨rfl, fun slot hs => ?_⟩
      obtain rfl : slot = 0 := by omega
      rw [h0]
      rfl
  · rw [hc] at h ⊢
    simp only [List.range_succ, List.range_zero, List.nil_append, List.cons_append,
      List.foldlM_cons, List.foldlM_nil, takeSlots] at h
    cases h0 : g.candidateIndices.getD 0 none with
    | none =>
      rw [h0] at h
      cases h
    | some i =>
      rw [h0] at h
      cases h1 : g.candidateIndices.getD 1 none with
      | none =>
        rw [h1] at h
        cases h
      | some j =>
        rw [h1] at h
        cases h
        refine ⟨rfl, fun slot hs => ?_⟩
        obtain rfl | rfl : slot = 0 ∨ slot = 1 := by omega
        · rw [h0]
          rfl
        · rw [h1]
          rfl

theorem takeHit_ok {bridgeCount : Nat} {state state' : SelectedQ3U4Group × List Nat} {hit : Hit}
    (h : takeHit bridgeCount state hit = .ok state') :
    hit.candidate.device - 1 < bridgeCount ∧ hit.candidate.device - 1 ∉ state.2 ∧
      validateQ3u4Observation hit.candidate.observation = .usable ∧
      state' = ({ state.1 with
        candidateIndices := state.1.candidateIndices.set (hit.candidate.device - 1)
          hit.candidate.observationIndex }, (hit.candidate.device - 1) :: state.2) := by
  unfold takeHit at h
  dsimp only at h
  split at h
  · cases h
  · next hc =>
    rw [not_or, not_or, not_not, ge_iff_le, Nat.not_le] at hc
    cases h
    exact ⟨hc.1, hc.2.1, hc.2.2, rfl⟩

/-- Two candidates of one group in two slots. -/
theorem Grouping.pair {observations : List DeviceObservation} {r : GroupingResult}
    (h : Grouping observations r) {hit hit' : Hit} {selected : SelectedQ3U4Group}
    {taken : List Nat} (hg : hit.group ∈ r.groups) (hc : hit.candidate ∈ hit.group.candidates)
    (hc' : hit'.candidate ∈ hit.group.candidates)
    (htwo : (deviceProfile hit.group.model).bridgeCount = 2)
    (hfold : [hit, hit'].foldlM (takeHit 2) ({ groupIndex := hit.groupIndex }, []) =
      .ok (selected, taken)) :
    selected.groupIndex = hit.groupIndex ∧
      ∃ chosen, Chosen hit.group (fun slot => selected.candidateIndices[slot]?) chosen := by
  obtain ⟨s, -, hs⟩ := (h.finished _ hg).keyed _ hc
  obtain ⟨s', -, hs'⟩ := (h.finished _ hg).keyed _ hc'
  rw [List.foldlM_cons] at hfold
  cases h1 : takeHit 2 ({ groupIndex := hit.groupIndex }, []) hit with
  | error e =>
    rw [h1] at hfold
    cases hfold
  | ok state =>
    rw [h1] at hfold
    obtain ⟨hlt, -, hu, rfl⟩ := takeHit_ok h1
    rw [hs, Nat.add_sub_cancel] at hlt hfold
    have hfold : ([hit'].foldlM (takeHit 2)
        ({ groupIndex := hit.groupIndex
           candidateIndices := [0, 0].set s hit.candidate.observationIndex }, [s]) :
        Result (SelectedQ3U4Group × List Nat)) = .ok (selected, taken) := hfold
    rw [List.foldlM_cons] at hfold
    cases h2 : takeHit 2 ({ groupIndex := hit.groupIndex
                            candidateIndices := [0, 0].set s hit.candidate.observationIndex }, [s])
        hit' with
    | error e =>
      rw [h2] at hfold
      cases hfold
    | ok state' =>
      rw [h2] at hfold
      obtain ⟨hlt', hne, hu', rfl⟩ := takeHit_ok h2
      rw [hs', Nat.add_sub_cancel, List.mem_singleton] at hne
      rw [hs', Nat.add_sub_cancel] at hlt'
      cases hfold
      rw [hs', Nat.add_sub_cancel]
      refine ⟨rfl, fun slot => if slot = s then hit.candidate else hit'.candidate, ?_⟩
      have hother : ∀ slot < 2, slot ≠ s → slot = s' := by omega
      constructor
      · intro slot _
        split
        · exact hc
        · exact hc'
      · intro slot hslot
        rw [htwo] at hslot
        split
        · next heq => rw [hs, heq]
        · next hns => rw [hs', hother slot hslot hns]
      · intro slot _
        split
        · exact hu
        · exact hu'
      · intro slot hslot
        rw [htwo] at hslot
        dsimp only
        split
        · next heq =>
          rw [heq, List.getElem?_set_ne hne, List.getElem?_set_self]
          exact hlt
        · next hns =>
          rw [hother slot hslot hns, List.getElem?_set_self]
          rw [List.length_set]
          exact hlt'
      · intro slot hslot slot' hslot' heq
        rw [htwo] at hslot hslot'
        have hap : hit.candidate.observationIndex ≠ hit'.candidate.observationIndex := by
          intro hi
          have hd := h.device_eq hg hc hc' hi
          omega
        by_cases h0 : slot = s <;> by_cases h0' : slot' = s
        · rw [h0, h0']
        · rw [if_pos h0, if_neg h0'] at heq
          exact absurd heq hap
        · rw [if_neg h0, if_pos h0'] at heq
          exact absurd heq.symm hap
        · rw [hother slot hslot h0, hother slot' hslot' h0']

/-- **By paths**: what is chosen. -/
theorem Grouping.selectHits {observations : List DeviceObservation} {r : GroupingResult}
    (h : Grouping observations r) {baseSerial : List UInt8} {hits : List Hit}
    {selected : SelectedQ3U4Group}
    (hat : ∀ hit ∈ hits, r.groups[hit.groupIndex]? = some hit.group ∧
      hit.candidate ∈ hit.group.candidates) (htwo : hits.length ≤ 2)
    (hsel : Px4.Device.selectHits baseSerial hits = .ok selected) :
    (∀ hit ∈ hits, hit.groupIndex = selected.groupIndex) ∧
      ∃ g chosen, r.groups[selected.groupIndex]? = some g ∧
        Chosen g (fun slot => selected.candidateIndices[slot]?) chosen ∧
        (hits.length = 1 → g.status = .ready) := by
  unfold Px4.Device.selectHits at hsel
  rcases hits with _ | ⟨hit, others⟩
  · cases hsel
  · obtain ⟨hg, hc⟩ := hat hit List.mem_cons_self
    have hmem := List.mem_of_getElem? hg
    dsimp only at hsel
    split at hsel
    · cases hsel
    · next hsame =>
      rw [List.any_eq_true, not_exists] at hsame
      split at hsel
      · cases hsel
      · split at hsel
        · next hone =>
          subst hone
          split at hsel
          · cases hsel
          · next hready =>
            rw [not_not] at hready
            obtain ⟨hindex, hindices⟩ := takeSlots_ok hsel
            obtain ⟨chosen, hchosen⟩ := h.ready hmem hready
            refine ⟨?_, hit.group, chosen, ?_, ?_, fun _ => hready⟩
            · intro hit' hm
              rw [List.mem_singleton.1 hm, hindex]
            · rw [hindex]
              exact hg
            · refine ⟨hchosen.mem, hchosen.device, hchosen.usable, ?_, hchosen.distinct⟩
              intro slot hs
              rw [hindices slot hs]
              exact hchosen.index slot hs
        · next hmore =>
          obtain ⟨hit', rfl⟩ : ∃ hit', others = [hit'] := by
            rcases others with _ | ⟨hit', _ | ⟨hit'', others⟩⟩
            · exact absurd rfl hmore
            · exact ⟨hit', rfl⟩
            · simp at htwo
          have hi : hit'.groupIndex = hit.groupIndex := by
            by_contra hne
            exact hsame hit' ⟨List.mem_singleton.2 rfl, by simpa using hne⟩
          obtain ⟨hg', hc'⟩ := hat hit' (List.mem_cons_of_mem _ (List.mem_singleton.2 rfl))
          rw [hi, hg] at hg'
          rw [← Option.some.inj hg'] at hc'
          split at hsel
          · cases hsel
          · next hcount =>
            rw [not_not] at hcount
            split at hsel
            · cases hsel
            · next state hfold =>
              cases hsel
              rw [hcount] at hfold
              obtain ⟨hindex, chosen, hchosen⟩ := h.pair hmem hc hc' hcount hfold
              refine ⟨?_, hit.group, chosen, ?_, hchosen, nofun⟩
              · intro hit'' hm
                rcases List.mem_cons.1 hm with rfl | hm
                · exact hindex.symm
                · rw [List.mem_singleton.1 hm, hi, hindex]
              · rw [hindex]
                exact hg

/-- **Soundness of the selection**: a selection that succeeds has one usable candidate of one group
for every slot, with the number of the slot; every path stands for one candidate only; and one path
alone chooses a group that is ready. -/
theorem selection_sound (std : StdSort) (observations : List DeviceObservation) :
    ∃ r, groupQ3u4Devices std observations = .ok r ∧
      (∀ (baseSerial : List UInt8) (index : Nat),
        selectReadyQ3u4Group r baseSerial = .ok index →
          ∃ g chosen, r.groups[index]? = some g ∧ g.status = .ready ∧
            Chosen g (fun slot => g.candidateIndices.getD slot none) chosen) ∧
      ∀ (baseSerial : List UInt8) (usbPaths : List (List UInt8)) (selected : SelectedQ3U4Group),
        selectQ3u4GroupByUsbPaths r baseSerial usbPaths = .ok selected →
          (∀ text ∈ usbPaths, ∃ hit, MatchesOne r text hit ∧
            hit.groupIndex = selected.groupIndex) ∧
          ∃ g chosen, r.groups[selected.groupIndex]? = some g ∧
            Chosen g (fun slot => selected.candidateIndices[slot]?) chosen ∧
            (usbPaths.length = 1 → g.status = .ready) := by
  obtain ⟨r, hr, hg⟩ := groupQ3u4Devices_grouping std observations
  refine ⟨r, hr, ?_, ?_⟩
  · intro baseSerial index hsel
    obtain ⟨g, hat, hready⟩ := selectReadyQ3u4Group_readyAt hsel
    obtain ⟨chosen, hchosen⟩ := hg.ready (List.mem_of_getElem? hat) hready
    exact ⟨g, chosen, hat, hready, hchosen⟩
  · intro baseSerial usbPaths selected hsel
    unfold selectQ3u4GroupByUsbPaths at hsel
    split at hsel
    · cases hsel
    · next hargs =>
      rw [not_or, not_or, Nat.not_lt] at hargs
      split at hsel
      · cases hsel
      · next hits hmap =>
        obtain ⟨hlen, hleft, hright⟩ := mapM_ok hmap
        have hat : ∀ hit ∈ hits, r.groups[hit.groupIndex]? = some hit.group ∧
            hit.candidate ∈ hit.group.candidates := by
          intro hit hm
          obtain ⟨text, -, hloc⟩ := hright hit hm
          exact (locate_ok hloc).mem
        obtain ⟨hindex, g, chosen, hgi, hchosen, hone⟩ := hg.selectHits hat (by omega) hsel
        refine ⟨?_, g, chosen, hgi, hchosen, fun h => hone (by omega)⟩
        intro text hm
        obtain ⟨hit, hhit, hloc⟩ := hleft text hm
        exact ⟨hit, locate_ok hloc, hindex hit hhit⟩

end Px4.Device
