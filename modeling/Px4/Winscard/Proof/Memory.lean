import Px4.Winscard.Proxy

/-!
# What the calls do to a context

`Context.Accounted`: the books of the memory that a context has given to its callers. `Keeps c c'`
says what every piece of a call that works on an unreleased context leaves of it: the mutex and
`released`, a native context that is there, and the books.
-/

namespace Px4.Winscard

namespace Context

/-- `allocated_bytes` is the sum of the allocations, which are within the limits. -/
structure Accounted (c : Context) : Prop where
  nodup : (c.allocations.map Prod.fst).Nodup
  sum : c.allocatedBytes = (c.allocations.map Prod.snd).sum
  bytes : c.allocatedBytes ≤ kMaxAllocatedBytes
  blocks : c.allocations.length ≤ kMaxAllocations

theorem accounted_empty : ({} : Context).Accounted :=
  ⟨List.nodup_nil, rfl, Nat.zero_le _, Nat.zero_le _⟩

/-- What is left of an unreleased context. -/
structure Keeps (c c' : Context) : Prop where
  locked : c'.locked = c.locked
  released : c'.released = c.released
  native : c.native ≠ 0 → c'.native = c.native
  accounted : c.Accounted → c'.Accounted

variable {c c' c'' : Context} {r : Reply}

theorem Keeps.refl (c : Context) : c.Keeps c := ⟨rfl, rfl, fun _ => rfl, id⟩

theorem Keeps.trans (h : c.Keeps c') (h' : c'.Keeps c'') : c.Keeps c'' where
  locked := h'.locked.trans h.locked
  released := h'.released.trans h.released
  native hc := by
    rw [h'.native (by rw [h.native hc]; exact hc), h.native hc]
  accounted hc := h'.accounted (h.accounted hc)

/-- What is left of a context by the operations on its memory. -/
structure Fills (c c' : Context) : Prop where
  locked : c'.locked = c.locked
  released : c'.released = c.released
  native : c'.native = c.native
  accounted : c.Accounted → c'.Accounted

theorem Fills.refl (c : Context) : c.Fills c := ⟨rfl, rfl, rfl, id⟩

theorem Fills.trans (h : c.Fills c') (h' : c'.Fills c'') : c.Fills c'' :=
  ⟨h'.locked.trans h.locked, h'.released.trans h.released, h'.native.trans h.native,
    fun hc => h'.accounted (h.accounted hc)⟩

theorem Fills.keeps (h : c.Fills c') : c.Keeps c' :=
  ⟨h.locked, h.released, fun _ => h.native, h.accounted⟩

theorem keeps_ensureNative (c : Context) (complete : Bool) (establish : Scard × Nat) :
    c.Keeps (c.ensureNative complete establish).1 := by
  unfold ensureNative
  split
  · exact .refl c
  split
  · exact .refl c
  rename_i hnative
  split
  · split
    · exact .refl c
    · exact ⟨rfl, rfl, fun h => absurd h hnative, fun h => ⟨h.nodup, h.sum, h.bytes, h.blocks⟩⟩
  · exact .refl c

/-! ## Memory -/

theorem has_eq_false {memory : Block} (h : c.has memory = false) :
    memory ∉ c.allocations.map Prod.fst := by
  intro hmem
  obtain ⟨a, ha, rfl⟩ := List.mem_map.1 hmem
  simp only [has, List.any_eq_false] at h
  exact h a ha (beq_self_eq_true _)

theorem fills_allocateMemory (c : Context) (taken : Block → Bool) (block : Option Block)
    (bytes : Nat) : c.Fills (c.allocateMemory taken block bytes).1 := by
  unfold allocateMemory
  dsimp only
  split
  · exact .refl c
  rename_i hroom
  split
  · exact .refl c
  rename_i memory
  split
  · exact .refl c
  rename_i hfresh
  refine ⟨rfl, rfl, rfl, fun h => ?_⟩
  obtain ⟨hblocks, hbytes⟩ := not_or.1 hroom
  rw [Bool.or_eq_true, not_or, Bool.not_eq_true, Bool.not_eq_true] at hfresh
  have hsub : sizeSub kMaxAllocatedBytes c.allocatedBytes =
      kMaxAllocatedBytes - c.allocatedBytes := if_pos h.bytes
  rw [hsub] at hbytes
  have hle := h.bytes
  refine ⟨?_, ?_, ?_, ?_⟩
  · rw [List.map_append, List.nodup_append]
    refine ⟨h.nodup, by simp, fun a ha b hb => ?_⟩
    rintro rfl
    obtain rfl := List.mem_singleton.1 hb
    exact has_eq_false hfresh.2 ha
  · simp [h.sum]
  · dsimp only
    omega
  · simp only [List.length_append, List.length_singleton]
    omega

/-- A block of a list without its key is gone once, if the keys are distinct. -/
theorem sum_filter_of_find? {l : List (Block × Nat)} {memory : Block} {found : Block × Nat}
    (hnodup : (l.map Prod.fst).Nodup) (hfind : l.find? (fun a => a.1 == memory) = some found) :
    ((l.filter fun a => a.1 != memory).map Prod.snd).sum + found.2 = (l.map Prod.snd).sum := by
  induction l with
  | nil => cases hfind
  | cons a l ih =>
    rw [List.map_cons, List.nodup_cons] at hnodup
    by_cases ha : a.1 = memory
    · rw [List.find?_cons_of_pos (by simpa using ha)] at hfind
      obtain rfl := Option.some.inj hfind
      have hrest : l.filter (fun b => b.1 != memory) = l := by
        refine List.filter_eq_self.2 fun b hb => ?_
        rw [bne_iff_ne]
        rintro rfl
        exact hnodup.1 (ha ▸ List.mem_map_of_mem hb)
      rw [List.filter_cons_of_neg (by simpa using ha), hrest, List.map_cons, List.sum_cons]
      omega
    · rw [List.find?_cons_of_neg (by simpa using ha)] at hfind
      rw [List.filter_cons_of_pos (by simpa using ha), List.map_cons, List.map_cons, List.sum_cons,
        List.sum_cons]
      have := ih hnodup.2 hfind
      omega

theorem fills_freeMemory (c : Context) (freed : Block → Bool) (memory : Block) :
    c.Fills (c.freeMemory freed memory).1 := by
  unfold freeMemory
  split
  · exact .refl c
  rename_i found hfound
  split
  · exact .refl c
  refine ⟨rfl, rfl, rfl, fun h => ?_⟩
  have hsum := sum_filter_of_find? h.nodup hfound
  have hle : found.2 ≤ c.allocatedBytes := by
    rw [h.sum]
    omega
  have hsub : sizeSub c.allocatedBytes found.2 = c.allocatedBytes - found.2 := if_pos hle
  have hbytes := h.bytes
  have hlength := List.length_filter_le (fun a : Block × Nat => a.1 != memory) c.allocations
  refine ⟨?_, ?_, ?_, ?_⟩
  · exact h.nodup.sublist (List.filter_sublist.map _)
  · dsimp only
    rw [hsub, h.sum]
    omega
  · dsimp only
    omega
  · exact hlength.trans h.blocks

/-! ## The calls -/

theorem keeps_collectReaders (c : Context) (r : Reply) : c.Keeps (collectReaders c r).1 := by
  unfold collectReaders
  dsimp only
  have h := c.keeps_ensureNative r.complete r.establish
  repeat' split
  all_goals exact h

theorem keeps_listReaders (c : Context) (taken : Block → Bool) (r : Reply) (args : ListArgs) :
    c.Keeps (listReaders c taken r args).1 := by
  unfold listReaders
  have h := c.keeps_collectReaders r
  generalize collectReaders c r = collected at h ⊢
  obtain ⟨c, result, readers⟩ := collected
  dsimp only at h ⊢
  split
  · exact h
  split
  · exact h
  rename_i size _
  have hallocate := h.trans (c.fills_allocateMemory taken r.block (size * args.width)).keeps
  split
  · exact h
  split
  · split
    · rename_i heq
      rw [heq] at hallocate
      exact hallocate
    · rename_i heq
      rw [heq] at hallocate
      exact hallocate
  split
  · exact h
  · exact h

theorem keeps_connectReader (c : Context) (r : Reply) (args : ConnectArgs) :
    c.Keeps (connectReader c r args).1 := by
  unfold connectReader
  have h := c.keeps_collectReaders r
  generalize collectReaders c r = collected at h ⊢
  obtain ⟨c, result, readers⟩ := collected
  dsimp only at h ⊢
  have hensure := h.trans (c.keeps_ensureNative r.complete r.establishAgain)
  repeat' split
  all_goals first | exact h | exact hensure

theorem fills_answerStatus (c : Context) (taken : Block → Bool) (r : Reply) (args : StatusArgs)
    (names atr : Nat) : c.Fills (answerStatus c taken r args names atr).1 := by
  unfold answerStatus
  dsimp only
  split
  · exact .refl c
  have hnames : c.Fills (if (args.names && args.nameLength == some kAutoAllocate) = true then
      c.allocateMemory taken r.block (names * 2) else (c, none)).1 := by
    split
    · exact c.fills_allocateMemory taken r.block (names * 2)
    · exact .refl c
  generalize (if (args.names && args.nameLength == some kAutoAllocate) = true then
      c.allocateMemory taken r.block (names * 2) else (c, none)) = first at hnames ⊢
  obtain ⟨c₁, nameMemory⟩ := first
  split
  · exact hnames
  have hatr : c.Fills (if (args.atr && args.atrLength == some kAutoAllocate) = true then
      c₁.allocateMemory taken r.secondBlock atr else (c₁, none)).1 := by
    split
    · exact hnames.trans (c₁.fills_allocateMemory taken r.secondBlock atr)
    · exact hnames
  generalize (if (args.atr && args.atrLength == some kAutoAllocate) = true then
      c₁.allocateMemory taken r.secondBlock atr else (c₁, none)) = second at hatr ⊢
  obtain ⟨c₂, atrMemory⟩ := second
  split
  · cases nameMemory with
    | none => exact hatr
    | some memory => exact hatr.trans (c₂.fills_freeMemory r.freed memory)
  · exact hatr

/-! ## The end of a context -/

theorem freeMemory_true {freed : Block → Bool} {memory : Block}
    (h : c.freeMemory freed memory = (c', true)) :
    c'.allocations = c.allocations.filter fun a => a.1 != memory := by
  unfold freeMemory at h
  split at h
  · cases h
  split at h
  · cases h
  · cases h
    rfl

theorem freeMemory_false {freed : Block → Bool} {memory : Block}
    (h : c.freeMemory freed memory = (c', false)) : c' = c := by
  unfold freeMemory at h
  split at h
  · cases h
    rfl
  split at h
  · cases h
    rfl
  · cases h

/-- **The loop over the allocations** leaves none of them, and the rest of the context as it was. -/
theorem freeAll_spec (freed : Block → Bool) {fuel : Nat} (hfuel : c.allocations.length ≤ fuel) :
    (c.freeAll freed fuel).1.allocations = [] ∧ (c.freeAll freed fuel).1.locked = c.locked ∧
      (c.freeAll freed fuel).1.released = c.released ∧
      (c.freeAll freed fuel).1.native = c.native := by
  induction fuel generalizing c with
  | zero => exact ⟨List.length_eq_zero_iff.1 (Nat.le_zero.1 hfuel), rfl, rfl, rfl⟩
  | succ fuel ih =>
    unfold freeAll
    split
    · rename_i hnil
      exact ⟨hnil, rfl, rfl, rfl⟩
    rename_i first rest hcons
    rw [hcons, List.length_cons] at hfuel
    have hkeeps := c.fills_freeMemory freed first.1
    split
    · rename_i c' hfreed
      rw [hfreed] at hkeeps
      have hallocations := freeMemory_true hfreed
      have hlength : c'.allocations.length ≤ fuel := by
        rw [hallocations, hcons, List.filter_cons_of_neg (by simp)]
        exact (List.length_filter_le _ _).trans (Nat.le_of_succ_le_succ hfuel)
      obtain ⟨hnil, hlocked, hreleased, hnative'⟩ := ih hlength
      exact ⟨hnil, hlocked.trans hkeeps.locked, hreleased.trans hkeeps.released,
        hnative'.trans hkeeps.native⟩
    · rename_i c' hrefused
      obtain rfl := freeMemory_false hrefused
      exact ih (c := { c' with allocations := rest }) (Nat.le_of_succ_le_succ hfuel)

end Context

end Px4.Winscard
