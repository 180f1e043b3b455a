import Px4.Device.Proof.Renaming

/-!
# The selection and the order of enumeration

The selections look at the groups, not at the indices of the observations: with the indices renamed
they choose the same devices or fail the same way. The order of two paths does not matter for what
is chosen; the error is that of the first path that fails by itself.
-/

namespace Px4.Device

open Lib (StdSort)

variable {ρ : Nat → Nat}

/-! ## By serial -/

theorem readyScan_rename (baseSerial : List UInt8) (groups : List Q3U4Group) (n : Nat)
    (scan : ReadyScan) :
    ((groups.map (Q3U4Group.rename ρ)).zipIdx n).foldl (ReadyScan.step baseSerial) scan =
      (groups.zipIdx n).foldl (ReadyScan.step baseSerial) scan := by
  induction groups generalizing n scan with
  | nil => rfl
  | cons g groups ih =>
    rw [List.map_cons, List.zipIdx_cons, List.zipIdx_cons, List.foldl_cons, List.foldl_cons, ih]
    rfl

theorem selectReadyQ3u4Group_rename {r r' : GroupingResult}
    (h : r'.groups = r.groups.map (Q3U4Group.rename ρ)) (baseSerial : List UInt8) :
    selectReadyQ3u4Group r' baseSerial = selectReadyQ3u4Group r baseSerial := by
  unfold selectReadyQ3u4Group
  rw [h, readyScan_rename]

/-! ## By USB paths -/

def Hit.rename (ρ : Nat → Nat) (hit : Hit) : Hit :=
  ⟨hit.groupIndex, hit.group.rename ρ, hit.candidate.rename ρ⟩

theorem hits_rename {r r' : GroupingResult} (h : r'.groups = r.groups.map (Q3U4Group.rename ρ)) :
    r'.hits = r.hits.map (Hit.rename ρ) := by
  unfold GroupingResult.hits
  rw [h, List.zipIdx_map, List.flatMap_map, List.map_flatMap]
  refine List.flatMap_congr fun entry _ => ?_
  simp only [Q3U4Group.rename, List.map_map, Prod.map_fst, Prod.map_snd]
  rfl

theorem locate_rename {r r' : GroupingResult} (h : r'.groups = r.groups.map (Q3U4Group.rename ρ))
    (text : List UInt8) : locate r' text = (locate r text).map (Hit.rename ρ) := by
  unfold locate
  cases parseUsbPath text with
  | error e => rfl
  | ok path =>
    dsimp only
    have hfilter : (r'.hits.filter fun hit => pathMatches path hit.candidate.observation.location) =
        (r.hits.filter fun hit => pathMatches path hit.candidate.observation.location).map
          (Hit.rename ρ) := by
      rw [hits_rename h, List.filter_map]
      rfl
    rw [hfilter]
    generalize (r.hits.filter fun hit => pathMatches path hit.candidate.observation.location) = hits
    rcases hits with _ | ⟨hit, _ | ⟨hit', hits⟩⟩ <;> rfl

theorem mapM_map {α β γ ε : Type} {f : α → Except ε β} {f' : α → Except ε γ} {g : β → γ}
    (h : ∀ a, f' a = (f a).map g) (l : List α) : l.mapM f' = (l.mapM f).map (List.map g) := by
  induction l with
  | nil => rfl
  | cons a l ih =>
    rw [List.mapM_cons, List.mapM_cons, h, ih]
    cases f a with
    | error e => rfl
    | ok b => cases l.mapM f <;> rfl

/-- Both fail alike, or both choose the group and, up to the renaming, the candidates. -/
def SameChoice (ρ : Nat → Nat) (n : Nat) : Result SelectedQ3U4Group → Result SelectedQ3U4Group →
    Prop
  | .error e, .error e' => e = e'
  | .ok selected, .ok selected' => selected'.groupIndex = selected.groupIndex ∧
      ∀ slot < n, selected'.candidateIndices[slot]? = selected.candidateIndices[slot]?.map ρ
  | _, _ => False

/-- The slots of a group that is ready, with the indices renamed. -/
theorem takeSlots_rename (g : Q3U4Group) (groupIndex : Nat) :
    SameChoice ρ (deviceProfile g.model).bridgeCount
      ((List.range (deviceProfile g.model).bridgeCount).foldlM (takeSlots g) { groupIndex })
      ((List.range (deviceProfile g.model).bridgeCount).foldlM (takeSlots (g.rename ρ))
        { groupIndex }) := by
  have hgetD : ∀ slot, (g.rename ρ).candidateIndices.getD slot none =
      (g.candidateIndices.getD slot none).map ρ := by
    intro slot
    rw [Q3U4Group.rename, List.getD_eq_getElem?_getD, List.getD_eq_getElem?_getD, List.getElem?_map]
    cases g.candidateIndices[slot]? <;> rfl
  rcases bridgeCount_cases g.model with hc | hc
  · rw [hc]
    simp only [List.range_succ, List.range_zero, List.nil_append, List.foldlM_cons,
      List.foldlM_nil, takeSlots, hgetD]
    cases g.candidateIndices.getD 0 none with
    | none => rfl
    | some i =>
      refine ⟨rfl, fun slot hs => ?_⟩
      obtain rfl : slot = 0 := by omega
      rfl
  · rw [hc]
    simp only [List.range_succ, List.range_zero, List.nil_append, List.cons_append,
      List.foldlM_cons, List.foldlM_nil, takeSlots, hgetD]
    cases g.candidateIndices.getD 0 none with
    | none => rfl
    | some i =>
      cases g.candidateIndices.getD 1 none with
      | none => rfl
      | some j =>
        refine ⟨rfl, fun slot hs => ?_⟩
        obtain rfl | rfl : slot = 0 ∨ slot = 1 := by omega
        · rfl
        · rfl

/-- Two candidates can stand for a pair: in two slots, and usable. -/
def PairOk (hit hit' : Hit) : Prop :=
  hit.candidate.device - 1 < 2 ∧ hit'.candidate.device - 1 < 2 ∧
    hit'.candidate.device - 1 ≠ hit.candidate.device - 1 ∧
    validateQ3u4Observation hit.candidate.observation = .usable ∧
    validateQ3u4Observation hit'.candidate.observation = .usable

instance (hit hit' : Hit) : Decidable (PairOk hit hit') := inferInstanceAs (Decidable (_ ∧ _))

theorem PairOk.symm {hit hit' : Hit} (h : PairOk hit hit') : PairOk hit' hit :=
  ⟨h.2.1, h.1, h.2.2.1.symm, h.2.2.2.2, h.2.2.2.1⟩

theorem takeHit_pair (hit hit' : Hit) (groupIndex : Nat) :
    ([hit, hit'].foldlM (takeHit 2) ({ groupIndex }, []) :
        Result (SelectedQ3U4Group × List Nat)).map Prod.fst =
      if PairOk hit hit' then
        .ok ⟨groupIndex, ([0, 0].set (hit.candidate.device - 1) hit.candidate.observationIndex).set
          (hit'.candidate.device - 1) hit'.candidate.observationIndex⟩
      else .error .invalidArgument := by
  rw [List.foldlM_cons]
  by_cases h : hit.candidate.device - 1 < 2 ∧
      validateQ3u4Observation hit.candidate.observation = .usable
  · have h1 : takeHit 2 ({ groupIndex }, []) hit = .ok
        (⟨groupIndex, [0, 0].set (hit.candidate.device - 1) hit.candidate.observationIndex⟩,
          [hit.candidate.device - 1]) := by
      rw [takeHit, if_neg]
      rw [not_or, not_or, not_not, ge_iff_le, Nat.not_le]
      exact ⟨h.1, List.not_mem_nil, h.2⟩
    rw [h1]
    show (([hit'].foldlM (takeHit 2) _ : Result _).map Prod.fst) = _
    rw [List.foldlM_cons]
    by_cases h' : hit'.candidate.device - 1 < 2 ∧
        hit'.candidate.device - 1 ≠ hit.candidate.device - 1 ∧
        validateQ3u4Observation hit'.candidate.observation = .usable
    · rw [takeHit, if_neg, if_pos ⟨h.1, h'.1, h'.2.1, h.2, h'.2.2⟩]
      · rfl
      · rw [not_or, not_or, not_not, ge_iff_le, Nat.not_le, List.mem_singleton]
        exact h'
    · rw [takeHit, if_pos, if_neg]
      · rfl
      · exact fun hc => h' ⟨hc.2.1, hc.2.2.1, hc.2.2.2.2⟩
      · by_contra hc
        rw [not_or, not_or, not_not, ge_iff_le, Nat.not_le, List.mem_singleton] at hc
        exact h' hc
  · rw [takeHit, if_pos, if_neg]
    · rfl
    · exact fun hc => h ⟨hc.1, hc.2.2.2.1⟩
    · by_contra hc
      rw [not_or, not_or, not_not, ge_iff_le, Nat.not_le] at hc
      exact h ⟨hc.1, hc.2.2⟩

/-- Two paths choose a pair of one group, or it is `INVALID_ARGUMENT`. -/
theorem selectHits_pair (baseSerial : List UInt8) (hit hit' : Hit) :
    selectHits baseSerial [hit, hit'] =
      if hit'.groupIndex = hit.groupIndex ∧ (baseSerial = [] ∨ hit.group.baseSerial = baseSerial) ∧
          (deviceProfile hit.group.model).bridgeCount = 2 ∧ PairOk hit hit' then
        .ok ⟨hit.groupIndex,
          ([0, 0].set (hit.candidate.device - 1) hit.candidate.observationIndex).set
            (hit'.candidate.device - 1) hit'.candidate.observationIndex⟩
      else .error .invalidArgument := by
  have hany : ([hit'].any fun other => other.groupIndex != hit.groupIndex) = true ↔
      ¬hit'.groupIndex = hit.groupIndex := by simp
  have hser : baseSerial ≠ [] ∧ hit.group.baseSerial ≠ baseSerial ↔
      ¬(baseSerial = [] ∨ hit.group.baseSerial = baseSerial) := not_or.symm
  have hlen : [hit, hit'].length = 2 := rfl
  unfold selectHits
  dsimp only
  by_cases hindex : hit'.groupIndex = hit.groupIndex
  · rw [if_neg (fun hc => hany.1 hc hindex)]
    by_cases hserial : baseSerial = [] ∨ hit.group.baseSerial = baseSerial
    · rw [if_neg (fun hc => hser.1 hc hserial), if_neg (List.cons_ne_nil _ _), hlen]
      by_cases hcount : (deviceProfile hit.group.model).bridgeCount = 2
      · have hfold := takeHit_pair hit hit' hit.groupIndex
        rw [if_neg (fun hc => hc hcount), hcount]
        by_cases hpair : PairOk hit hit'
        · rw [if_pos hpair] at hfold
          rw [if_pos ⟨hindex, hserial, rfl, hpair⟩]
          cases hx : ([hit, hit'].foldlM (takeHit 2) ({ groupIndex := hit.groupIndex }, []) :
              Result (SelectedQ3U4Group × List Nat)) with
          | error e =>
            rw [hx] at hfold
            cases hfold
          | ok state =>
            rw [hx] at hfold
            exact hfold
        · rw [if_neg hpair] at hfold
          rw [if_neg (fun hc => hpair hc.2.2.2)]
          cases hx : ([hit, hit'].foldlM (takeHit 2) ({ groupIndex := hit.groupIndex }, []) :
              Result (SelectedQ3U4Group × List Nat)) with
          | error e =>
            rw [hx] at hfold
            exact hfold
          | ok state =>
            rw [hx] at hfold
            cases hfold
      · rw [if_pos hcount, if_neg (fun hc => hcount hc.2.2.1)]
    · rw [if_pos (hser.2 hserial), if_neg (fun hc => hserial hc.2.1)]
  · rw [if_pos (hany.2 hindex), if_neg (fun hc => hindex hc.1)]

/-- One path. -/
theorem selectHits_single (baseSerial : List UInt8) (hit : Hit) :
    selectHits baseSerial [hit] =
      if (baseSerial = [] ∨ hit.group.baseSerial = baseSerial) ∧ hit.group.status = .ready then
        (List.range (deviceProfile hit.group.model).bridgeCount).foldlM (takeSlots hit.group)
          { groupIndex := hit.groupIndex }
      else .error .invalidArgument := by
  have hser : baseSerial ≠ [] ∧ hit.group.baseSerial ≠ baseSerial ↔
      ¬(baseSerial = [] ∨ hit.group.baseSerial = baseSerial) := not_or.symm
  unfold selectHits
  dsimp only
  rw [if_neg (by simp)]
  by_cases hserial : baseSerial = [] ∨ hit.group.baseSerial = baseSerial
  · rw [if_neg (fun hc => hser.1 hc hserial), if_pos rfl]
    by_cases hready : hit.group.status = .ready
    · rw [if_neg (not_not.2 hready), if_pos ⟨hserial, hready⟩]
    · rw [if_pos hready, if_neg (fun hc => hready hc.2)]
  · rw [if_pos (hser.2 hserial), if_neg (fun hc => hserial hc.1)]

/-- The two slots of a pair. -/
theorem set_pair (f : Nat → Nat) {s s' i i' : Nat} (hs : s < 2) (hs' : s' < 2) (hne : s' ≠ s) :
    (([0, 0].set s (f i)).set s' (f i')) = (([0, 0].set s i).set s' i').map f := by
  obtain ⟨rfl, rfl⟩ | ⟨rfl, rfl⟩ : s = 0 ∧ s' = 1 ∨ s = 1 ∧ s' = 0 := by omega
  · rfl
  · rfl

/-- **By paths**, with the indices renamed. -/
theorem selectHits_rename (baseSerial : List UInt8) {hits : List Hit} (hlen : hits.length ≤ 2)
    {n : Nat}
    (hn : ∀ hit, hits.head? = some hit → (deviceProfile hit.group.model).bridgeCount = n) :
    SameChoice ρ n (selectHits baseSerial hits)
      (selectHits baseSerial (hits.map (Hit.rename ρ))) := by
  rcases hits with _ | ⟨hit, _ | ⟨hit', _ | ⟨hit'', hits⟩⟩⟩
  · rfl
  · rw [List.map_singleton, selectHits_single, selectHits_single]
    have hsame : (baseSerial = [] ∨ (hit.rename ρ).group.baseSerial = baseSerial) ∧
        (hit.rename ρ).group.status = .ready ↔
          (baseSerial = [] ∨ hit.group.baseSerial = baseSerial) ∧
          hit.group.status = .ready := Iff.rfl
    by_cases hc : (baseSerial = [] ∨ hit.group.baseSerial = baseSerial) ∧ hit.group.status = .ready
    · rw [if_pos hc, if_pos (hsame.2 hc), ← hn hit rfl]
      exact takeSlots_rename hit.group hit.groupIndex
    · rw [if_neg hc, if_neg (mt hsame.1 hc)]
      rfl
  · rw [List.map_cons, List.map_singleton, selectHits_pair, selectHits_pair]
    have hsame : (hit'.rename ρ).groupIndex = (hit.rename ρ).groupIndex ∧
        (baseSerial = [] ∨ (hit.rename ρ).group.baseSerial = baseSerial) ∧
          (deviceProfile (hit.rename ρ).group.model).bridgeCount = 2 ∧
            PairOk (hit.rename ρ) (hit'.rename ρ) ↔
        hit'.groupIndex = hit.groupIndex ∧
          (baseSerial = [] ∨ hit.group.baseSerial = baseSerial) ∧
            (deviceProfile hit.group.model).bridgeCount = 2 ∧ PairOk hit hit' := Iff.rfl
    by_cases hc : hit'.groupIndex = hit.groupIndex ∧
        (baseSerial = [] ∨ hit.group.baseSerial = baseSerial) ∧
          (deviceProfile hit.group.model).bridgeCount = 2 ∧ PairOk hit hit'
    · rw [if_pos hc, if_pos (hsame.2 hc)]
      obtain ⟨-, -, -, hs, hs', hne, -⟩ := hc
      refine ⟨rfl, fun slot _ => ?_⟩
      rw [← List.getElem?_map]
      exact congrArg (·[slot]?) (set_pair ρ hs hs' hne)
    · rw [if_neg hc, if_neg (mt hsame.1 hc)]
      rfl
  · simp at hlen

/-- **By paths**, in the other order. -/
theorem selectHits_swap (baseSerial : List UInt8) {hit hit' : Hit}
    (hgroup : hit'.groupIndex = hit.groupIndex → hit'.group = hit.group) :
    selectHits baseSerial [hit', hit] = selectHits baseSerial [hit, hit'] := by
  rw [selectHits_pair, selectHits_pair]
  by_cases hindex : hit'.groupIndex = hit.groupIndex
  · rw [hgroup hindex, hindex]
    by_cases hc : (baseSerial = [] ∨ hit.group.baseSerial = baseSerial) ∧
        (deviceProfile hit.group.model).bridgeCount = 2 ∧ PairOk hit hit'
    · rw [if_pos ⟨rfl, hc.1, hc.2.1, hc.2.2.symm⟩, if_pos ⟨rfl, hc⟩]
      rw [List.set_comm _ _ hc.2.2.2.2.1]
    · rw [if_neg (fun h => hc ⟨h.2.1, h.2.2.1, h.2.2.2.symm⟩), if_neg (fun h => hc h.2)]
  · rw [if_neg (fun hc => hindex hc.1.symm), if_neg (fun hc => hindex hc.1)]

/-! ## The devices -/

/-- The devices of a selection, slot by slot. -/
def chosenDevices (observations : List DeviceObservation) (r : GroupingResult)
    (selected : SelectedQ3U4Group) : List (Option DeviceObservation) :=
  match r.groups[selected.groupIndex]? with
  | none => []
  | some g => (List.range (deviceProfile g.model).bridgeCount).map fun slot =>
      selected.candidateIndices[slot]?.bind fun index => observations[index]?

/-- The group and the devices that the paths choose. -/
def selectDevices (observations : List DeviceObservation) (r : GroupingResult)
    (baseSerial : List UInt8) (usbPaths : List (List UInt8)) :
    Result (Nat × List (Option DeviceObservation)) :=
  (selectQ3u4GroupByUsbPaths r baseSerial usbPaths).map fun selected =>
    (selected.groupIndex, chosenDevices observations r selected)

theorem selectDevices_rename {observations observations' : List DeviceObservation}
    {r r' : GroupingResult} (hg : Grouping observations r)
    (hp : observations'.Perm observations)
    (h : r'.groups = r.groups.map (Q3U4Group.rename (movedTo observations observations')))
    (baseSerial : List UInt8) (usbPaths : List (List UInt8)) :
    selectDevices observations' r' baseSerial usbPaths =
      selectDevices observations r baseSerial usbPaths := by
  unfold selectDevices selectQ3u4GroupByUsbPaths
  split
  · rfl
  · next hargs =>
    rw [not_or, not_or, Nat.not_lt] at hargs
    rw [mapM_map (locate_rename h)]
    cases hmap : usbPaths.mapM (locate r) with
    | error e => rfl
    | ok hits =>
      obtain ⟨hlen, -, hright⟩ := mapM_ok hmap
      have hat : ∀ hit ∈ hits, r.groups[hit.groupIndex]? = some hit.group ∧
          hit.candidate ∈ hit.group.candidates := by
        intro hit hm
        obtain ⟨text, -, hloc⟩ := hright hit hm
        exact (locate_ok hloc).mem
      show (selectHits baseSerial (hits.map _)).map _ = (selectHits baseSerial hits).map _
      rcases hits with _ | ⟨hit, others⟩
      · rfl
      · have hsame := @selectHits_rename (movedTo observations observations') baseSerial
          (hit :: others) (by omega) (deviceProfile hit.group.model).bridgeCount
          (fun _ he => by rw [← Option.some.inj he])
        cases hx : selectHits baseSerial (hit :: others) with
        | error e =>
          cases hx' : selectHits baseSerial
              ((hit :: others).map (Hit.rename (movedTo observations observations'))) with
          | error e' =>
            rw [hx, hx'] at hsame
            exact congrArg Except.error (Eq.symm hsame)
          | ok selected' =>
            rw [hx, hx'] at hsame
            exact hsame.elim
        | ok selected =>
          cases hx' : selectHits baseSerial
              ((hit :: others).map (Hit.rename (movedTo observations observations'))) with
          | error e' =>
            rw [hx, hx'] at hsame
            exact hsame.elim
          | ok selected' =>
            rw [hx, hx'] at hsame
            obtain ⟨hindex, hslots⟩ := hsame
            obtain ⟨hsel, -⟩ := hg.selectHits hat (by omega) hx
            have hgroup : r.groups[selected.groupIndex]? = some hit.group := by
              rw [← hsel hit List.mem_cons_self]
              exact (hat hit List.mem_cons_self).1
            have hdevices : chosenDevices observations' r' selected' =
                chosenDevices observations r selected := by
              unfold chosenDevices
              rw [hindex, h, List.getElem?_map, hgroup]
              refine List.map_congr_left fun slot hs => ?_
              rw [hslots slot (List.mem_range.1 hs), Option.bind_map]
              exact congrArg _ (funext fun index => getElem?_movedTo hp index)
            exact congrArg Except.ok (Prod.ext hindex hdevices)

/-- Two paths in the other order. -/
theorem selectQ3u4GroupByUsbPaths_swap (r : GroupingResult) (baseSerial p q : List UInt8) :
    selectQ3u4GroupByUsbPaths r baseSerial [q, p] = selectQ3u4GroupByUsbPaths r baseSerial [p, q] ∨
      ∃ e e', e ≠ e' ∧ locate r p = .error e ∧ locate r q = .error e' ∧
        selectQ3u4GroupByUsbPaths r baseSerial [p, q] = .error e ∧
        selectQ3u4GroupByUsbPaths r baseSerial [q, p] = .error e' := by
  unfold selectQ3u4GroupByUsbPaths
  by_cases hserial : baseSerial ≠ [] ∧ !validDeviceInstance baseSerial
  · rw [if_pos (.inl hserial), if_pos (.inl hserial)]
    exact .inl rfl
  · have hargs : ∀ a b : List UInt8,
        ¬(baseSerial ≠ [] ∧ !validDeviceInstance baseSerial ∨ [a, b] = [] ∨ [a, b].length > 2) := by
      intro a b
      rw [not_or, not_or]
      exact ⟨hserial, List.cons_ne_nil _ _, by simp⟩
    rw [if_neg (hargs p q), if_neg (hargs q p)]
    simp only [List.mapM_cons, List.mapM_nil]
    cases hp : locate r p with
    | error e =>
      cases hq : locate r q with
      | error e' =>
        by_cases he : e = e'
        · subst he
          exact .inl rfl
        · exact .inr ⟨e, e', he, rfl, rfl, rfl, rfl⟩
      | ok hit' => exact .inl rfl
    | ok hit =>
      cases hq : locate r q with
      | error e' => exact .inl rfl
      | ok hit' =>
        refine .inl (selectHits_swap baseSerial fun hindex => ?_)
        have hg := (locate_ok hp).mem.1
        have hg' := (locate_ok hq).mem.1
        rw [hindex, hg] at hg'
        exact (Option.some.inj hg').symm

/-- The orders of at most two paths. -/
theorem perm_pair {α : Type} {p q : α} {l : List α} (h : l.Perm [p, q]) :
    l = [p, q] ∨ l = [q, p] := by
  rcases l with _ | ⟨a, _ | ⟨b, _ | ⟨c, l⟩⟩⟩
  · cases h.length_eq
  · cases h.length_eq
  · rcases List.mem_cons.1 (h.subset List.mem_cons_self) with rfl | ha
    · rw [List.perm_cons, List.perm_singleton] at h
      exact .inl (by rw [h])
    · rw [List.mem_singleton] at ha
      subst ha
      have h := h.trans (.swap _ _ _)
      rw [List.perm_cons, List.perm_singleton] at h
      exact .inr (by rw [h])
  · cases h.length_eq

/-- **Another order of enumeration** renames the indices and nothing else: the groups, their order,
statuses and candidates are the same, and so are the devices that are selected, or the error. Two
paths in the other order give the same, unless they fail by themselves with two different errors:
then it is the error of the first one. -/
theorem enumeration_order (std std' : StdSort)
    (observations observations' : List DeviceObservation) (h : Distinguished observations)
    (hp : observations'.Perm observations) :
    ∃ r r' ρ, groupQ3u4Devices std observations = .ok r ∧
      groupQ3u4Devices std' observations' = .ok r' ∧
      (∀ index : Nat, observations'[ρ index]? = observations[index]?) ∧
      r'.groups = r.groups.map (Q3U4Group.rename ρ) ∧ r'.rejected.Perm r.rejected ∧
      (∀ baseSerial : List UInt8,
        selectReadyQ3u4Group r' baseSerial = selectReadyQ3u4Group r baseSerial) ∧
      ∀ (baseSerial : List UInt8) (usbPaths usbPaths' : List (List UInt8)),
        usbPaths'.Perm usbPaths →
          selectDevices observations' r' baseSerial usbPaths' =
            selectDevices observations r baseSerial usbPaths ∨
          ∃ p q e e', usbPaths = [p, q] ∧ usbPaths' = [q, p] ∧ e ≠ e' ∧
            locate r p = .error e ∧ locate r q = .error e' ∧
            selectDevices observations r baseSerial usbPaths = .error e ∧
            selectDevices observations' r' baseSerial usbPaths' = .error e' := by
  obtain ⟨r, r', hr, hg, hr', hgroups, hrejected⟩ := groupQ3u4Devices_rename std std' h hp
  have hsame := selectDevices_rename hg hp hgroups
  refine ⟨r, r', _, hr, hr', getElem?_movedTo hp, hgroups, hrejected,
    selectReadyQ3u4Group_rename hgroups, ?_⟩
  intro baseSerial usbPaths usbPaths' hpaths
  rw [hsame]
  rcases usbPaths with _ | ⟨p, _ | ⟨q, _ | ⟨t, paths⟩⟩⟩
  · rw [List.perm_nil.1 hpaths]
    exact .inl rfl
  · rw [List.perm_singleton.1 hpaths]
    exact .inl rfl
  · rcases perm_pair hpaths with rfl | rfl
    · exact .inl rfl
    · rcases selectQ3u4GroupByUsbPaths_swap r baseSerial p q with heq | ⟨e, e', hne, hp, hq, h1, h2⟩
      · refine .inl ?_
        unfold selectDevices
        rw [heq]
      · refine .inr ⟨p, q, e, e', rfl, rfl, hne, hp, hq, ?_, ?_⟩
        · rw [selectDevices, h1]
          rfl
        · rw [selectDevices, h2]
          rfl
  · -- more than two paths are not looked at
    have hlong : ∀ paths : List (List UInt8), paths.length > 2 →
        selectQ3u4GroupByUsbPaths r baseSerial paths = .error .invalidArgument := fun paths hl => by
      rw [selectQ3u4GroupByUsbPaths, if_pos (.inr (.inr hl))]
    refine .inl ?_
    unfold selectDevices
    rw [hlong _ (by rw [hpaths.length_eq]; simp), hlong _ (by simp)]

theorem noPorts_length : (List.replicate kPortPathLength (0 : UInt8)).length =
    kPortPathLength := rfl

/-- A bridge of a PX-Q3U4 with the base serial 1, on bus 1. -/
def q3u4Bridge (device address : UInt8) : DeviceObservation where
  vendorId := kQ3U4VendorId
  productId := DeviceModel.pxQ3u4.productId
  serial := List.replicate 13 0x30 ++ [0x31, 0x30 + device]
  speed := .high
  location :=
    { hasBus := true, hasAddress := true, bus := 1, address := address
      portPath_length := noPorts_length }
  topology := [⟨0, 0, [⟨0x81, .bulk, 512⟩, ⟨0x02, .bulk, 512⟩, ⟨0x84, .bulk, 512⟩,
    ⟨0x85, .bulk, 512⟩]⟩]

/-- The two bridges of an enclosure, seen in the two orders. -/
theorem enumeration_order_pair :
    Distinguished [q3u4Bridge 1 7, q3u4Bridge 2 5] ∧
    ∃ r r' ρ, groupQ3u4Devices .insertion [q3u4Bridge 1 7, q3u4Bridge 2 5] = .ok r ∧
      groupQ3u4Devices .insertion [q3u4Bridge 2 5, q3u4Bridge 1 7] = .ok r' ∧
      r'.groups = r.groups.map (Q3U4Group.rename ρ) ∧
      selectReadyQ3u4Group r [] = .ok 0 ∧ selectReadyQ3u4Group r' [] = .ok 0 := by
  have hd : Distinguished [q3u4Bridge 1 7, q3u4Bridge 2 5] := by decide
  obtain ⟨r, r', ρ, hr, hr', -, hgroups, -, hready, -⟩ :=
    enumeration_order .insertion .insertion [q3u4Bridge 1 7, q3u4Bridge 2 5]
      [q3u4Bridge 2 5, q3u4Bridge 1 7] hd (.swap _ _ _)
  have hsel : (groupQ3u4Devices .insertion [q3u4Bridge 1 7, q3u4Bridge 2 5]).bind
      (fun r => selectReadyQ3u4Group r []) = .ok 0 := by decide
  rw [hr] at hsel
  exact ⟨hd, r, r', ρ, hr, hr', hgroups, hsel, (hready []).trans hsel⟩

/-- The paths `1` and `1:9` of the two bridges of an enclosure: one is not a path, the other one
stands for no candidate. -/
theorem usbPaths_order_error :
    Distinguished [q3u4Bridge 1 7, q3u4Bridge 2 5] ∧
    ∃ r, groupQ3u4Devices .insertion [q3u4Bridge 1 7, q3u4Bridge 2 5] = .ok r ∧
      selectQ3u4GroupByUsbPaths r [] [[0x31], [0x31, 0x3a, 0x39]] = .error .invalidArgument ∧
      selectQ3u4GroupByUsbPaths r [] [[0x31, 0x3a, 0x39], [0x31]] = .error .notFound := by
  have hd : Distinguished [q3u4Bridge 1 7, q3u4Bridge 2 5] := by decide
  obtain ⟨r, hr, -⟩ := groupQ3u4Devices_grouping .insertion [q3u4Bridge 1 7, q3u4Bridge 2 5]
  have hfirst : (groupQ3u4Devices .insertion [q3u4Bridge 1 7, q3u4Bridge 2 5]).bind
      (fun r => selectQ3u4GroupByUsbPaths r [] [[0x31], [0x31, 0x3a, 0x39]]) =
        .error .invalidArgument := by decide
  have hsecond : (groupQ3u4Devices .insertion [q3u4Bridge 1 7, q3u4Bridge 2 5]).bind
      (fun r => selectQ3u4GroupByUsbPaths r [] [[0x31, 0x3a, 0x39], [0x31]]) =
        .error .notFound := by decide
  rw [hr] at hfirst hsecond
  exact ⟨hd, r, hr, hfirst, hsecond⟩

end Px4.Device
