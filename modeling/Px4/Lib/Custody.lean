import Mathlib.Data.List.Induction

/-!
# Custody of handles

Handles are opened, may be claimed, and must be released if they were, and closed; a handle may be
opened from a duplicate of a descriptor, which must outlive the handle and be closed too. `Event`s
are what has been done, oldest first; `Item`s are what is held. `Accounted` says that exactly the
items are left of the events, and that the events were in order. It is kept by every operation on
an item, wherever the item is.

* `Accounted.handle`: what has been done with a handle.
* `Accounted.duplicate`: what has been done with a duplicate.
-/

namespace Lib.Custody

variable {H D : Type}

inductive Event (H D : Type)
  | opened (handle : H) (source : Option D)
  | claimed (handle : H)
  | released (handle : H)
  | closed (handle : H)
  | duplicated (duplicate : D)
  | closedDuplicate (duplicate : D)
  deriving DecidableEq, Repr

/-- The handle of an event. -/
def Event.handle : Event H D → Option H
  | opened h _ | claimed h | released h | closed h => some h
  | duplicated _ | closedDuplicate _ => none

variable [DecidableEq H]

/-- The events of a handle. -/
def concerning (h : H) (events : List (Event H D)) : List (Event H D) :=
  events.filter fun e => e.handle = some h

/-! ## A handle -/

/-- Where a handle is. -/
inductive Status
  | never | opened | claimed | released | closed | broken
  deriving DecidableEq, Repr

/-- An event of the handle. -/
def Status.next : Status → Event H D → Status
  | .never, .opened _ _ => .opened
  | .opened, .claimed _ => .claimed
  | .opened, .closed _ => .closed
  | .claimed, .released _ => .released
  | .released, .closed _ => .closed
  | _, _ => .broken

/-- Any event. -/
def Status.step (h : H) (s : Status) (e : Event H D) : Status :=
  if e.handle = some h then s.next e else s

theorem Status.step_self {h : H} {s : Status} {e : Event H D} (he : e.handle = some h) :
    s.step h e = s.next e := if_pos he

theorem Status.step_other {h : H} {s : Status} {e : Event H D} (he : e.handle ≠ some h) :
    s.step h e = s := if_neg he

def status (h : H) (events : List (Event H D)) : Status := events.foldl (Status.step h) .never

theorem status_append (h : H) (events : List (Event H D)) (e : Event H D) :
    status h (events ++ [e]) = (status h events).step h e := by
  rw [status, List.foldl_append]
  rfl

theorem concerning_append (h : H) (events : List (Event H D)) (e : Event H D) :
    concerning h (events ++ [e]) =
      if e.handle = some h then concerning h events ++ [e] else concerning h events := by
  rw [concerning, concerning, List.filter_append]
  by_cases he : e.handle = some h
  · rw [if_pos he, List.filter_cons_of_pos (by simpa using he), List.filter_nil]
  · rw [if_neg he, List.filter_cons_of_neg (by simpa using he), List.filter_nil, List.append_nil]

/-- What has been done with a handle that is there. -/
def Status.Story (h : H) : Status → List (Event H D) → Prop
  | .never, story => story = []
  | .opened, story => ∃ source, story = [.opened h source]
  | .claimed, story => ∃ source, story = [.opened h source, .claimed h]
  | .released, story => ∃ source, story = [.opened h source, .claimed h, .released h]
  | .closed, story => ∃ source, story = [.opened h source, .closed h] ∨
      story = [.opened h source, .claimed h, .released h, .closed h]
  | .broken, _ => True

/-- The events of a handle in order, by induction along the events. -/
theorem status_story (h : H) (events : List (Event H D)) :
    (status h events).Story h (concerning h events) := by
  induction events using List.reverseRecOn with
  | nil => rfl
  | append_singleton events e ih =>
    rw [status_append, concerning_append, Status.step]
    by_cases he : e.handle = some h
    · rw [if_pos he, if_pos he]
      generalize status h events = s at ih
      generalize concerning h events = story at ih
      cases s with
      | never =>
        cases ih
        cases e <;> cases he <;> simp [Status.next, Status.Story]
      | opened =>
        obtain ⟨source, rfl⟩ := ih
        cases e <;> cases he <;> simp [Status.next, Status.Story]
      | claimed =>
        obtain ⟨source, rfl⟩ := ih
        cases e <;> cases he <;> simp [Status.next, Status.Story]
      | released =>
        obtain ⟨source, rfl⟩ := ih
        cases e <;> cases he <;> simp [Status.next, Status.Story]
      | closed | broken => cases e <;> trivial
    · rwa [if_neg he, if_neg he]

/-- A handle that has been opened. -/
theorem status_ne_never {h : H} {events : List (Event H D)} {e : Event H D} (he : e ∈ events)
    (hh : e.handle = some h) : status h events ≠ .never := by
  intro hs
  have hstory := status_story h events
  rw [hs] at hstory
  have hmem : e ∈ concerning h events := List.mem_filter.2 ⟨he, decide_eq_true hh⟩
  rw [show concerning h events = [] from hstory] at hmem
  cases hmem

/-! ## A duplicate -/

/-- The duplicate of an event. -/
def Event.duplicate : Event H D → Option D
  | opened _ source => source
  | duplicated d | closedDuplicate d => some d
  | claimed _ | released _ | closed _ => none

/-- Where a duplicate is; `used` by a handle that has been opened from it. -/
inductive Use (H : Type)
  | never | idle | closed | broken
  | used (handle : H)
  deriving DecidableEq, Repr

/-- An event of the duplicate. -/
def Use.next : Use H → Event H D → Use H
  | .never, .duplicated _ => .idle
  | .idle, .opened h _ => .used h
  | .idle, .closedDuplicate _ => .closed
  | _, _ => .broken

/-- An event of something else, which may be the handle. -/
def Use.free (u : Use H) : Event H D → Use H
  | .closed h => if u = .used h then .idle else u
  | _ => u

variable [DecidableEq D]

/-- Any event. -/
def Use.step (d : D) (u : Use H) (e : Event H D) : Use H :=
  if e.duplicate = some d then u.next e else u.free e

theorem Use.step_self {d : D} {u : Use H} {e : Event H D} (he : e.duplicate = some d) :
    u.step d e = u.next e := if_pos he

theorem Use.step_other {d : D} {u : Use H} {e : Event H D} (he : e.duplicate ≠ some d) :
    u.step d e = u.free e := if_neg he

def use (d : D) (events : List (Event H D)) : Use H := events.foldl (Use.step d) .never

theorem use_append (d : D) (events : List (Event H D)) (e : Event H D) :
    use d (events ++ [e]) = (use d events).step d e := by
  rw [use, List.foldl_append]
  rfl

/-- What has been done with a duplicate that is there. -/
def Use.Story (d : D) : Use H → List (Event H D) → Prop
  | .never, events => (∀ e ∈ events, e.duplicate ≠ some d)
  | .idle, events => .closedDuplicate d ∉ events ∧
      ∀ h, .opened h (some d) ∈ events → .closed h ∈ events
  | .used h, events => .closedDuplicate d ∉ events ∧ .opened h (some d) ∈ events ∧
      ∀ h', .opened h' (some d) ∈ events → h' = h ∨ .closed h' ∈ events
  | .closed, events => events.count (.closedDuplicate d) = 1 ∧
      ∀ h, .opened h (some d) ∈ events → [.closed h, .closedDuplicate d].Sublist events
  | .broken, _ => True

omit [DecidableEq H] [DecidableEq D] in
/-- An event of something else is not among those of the duplicate. -/
theorem mem_append_other {d : D} {events : List (Event H D)} {e e' : Event H D}
    (he : e.duplicate ≠ some d) (he' : e'.duplicate = some d) :
    e' ∈ events ++ [e] ↔ e' ∈ events := by
  rw [List.mem_append, List.mem_singleton]
  refine or_iff_left fun heq => he ?_
  rw [← heq, he']

/-- An event of something else changes nothing of the story of a duplicate. -/
theorem Use.Story.other {d : D} {u : Use H} {events : List (Event H D)} {e : Event H D}
    (h : u.Story d events) (he : e.duplicate ≠ some d) : u.Story d (events ++ [e]) := by
  have hopened : ∀ h, .opened h (some d) ∈ events ++ [e] ↔ .opened h (some d) ∈ events :=
    fun h => mem_append_other he rfl
  have hclosed : .closedDuplicate d ∈ events ++ [e] ↔ .closedDuplicate d ∈ events :=
    mem_append_other he rfl
  have hlater : ∀ h, .closed h ∈ events → .closed h ∈ events ++ [e] :=
    fun h hm => List.mem_append_left _ hm
  cases u with
  | never =>
    intro e' hm
    rcases List.mem_append.1 hm with hm | hm
    · exact h e' hm
    · rwa [List.mem_singleton.1 hm]
  | idle => exact ⟨hclosed.not.2 h.1, fun g hg => hlater g (h.2 g ((hopened g).1 hg))⟩
  | used g =>
    refine ⟨hclosed.not.2 h.1, (hopened g).2 h.2.1, fun g' hg' => ?_⟩
    exact (h.2.2 g' ((hopened g').1 hg')).imp_right (hlater g')
  | closed =>
    refine ⟨?_, fun g hg => (h.2 g ((hopened g).1 hg)).trans (List.sublist_append_left _ _)⟩
    rw [List.count_append, h.1, List.count_singleton]
    rw [if_neg]
    intro heq
    exact he (by rw [beq_iff_eq.1 heq]; rfl)
  | broken => trivial

/-- The events of a duplicate in order, by induction along the events. -/
theorem use_story (d : D) (events : List (Event H D)) : (use d events).Story d events := by
  induction events using List.reverseRecOn with
  | nil => exact fun _ he => by cases he
  | append_singleton events e ih =>
    rw [use_append, Use.step]
    generalize use d events = u at ih
    by_cases he : e.duplicate = some d
    · rw [if_pos he]
      cases u with
      | never =>
        have hnone : ∀ h, .opened h (some d) ∉ events := fun h hm => ih _ hm rfl
        have hleft : .closedDuplicate d ∉ events := fun hm => ih _ hm rfl
        cases e <;> cases he <;> simp_all [Use.next, Use.Story]
      | idle =>
        obtain ⟨hleft, hclosed⟩ := ih
        cases e with
        | opened h source =>
          cases he
          refine ⟨by simpa using hleft, by simp, fun h' hm => ?_⟩
          rcases List.mem_append.1 hm with hm | hm
          · exact .inr (List.mem_append_left _ (hclosed h' hm))
          · cases List.mem_singleton.1 hm
            exact .inl rfl
        | closedDuplicate d' =>
          cases he
          refine ⟨?_, fun h hm => ?_⟩
          · rw [List.count_append, List.count_eq_zero.2 hleft, List.count_singleton_self]
          · -- the handle has been closed before
            have hm' : .opened h (some d) ∈ events := by simpa using hm
            have hbefore : [Event.closed h].Sublist events :=
              List.singleton_sublist.2 (hclosed h hm')
            exact hbefore.append (.refl [Event.closedDuplicate d])
        | duplicated => trivial
        | claimed | released | closed => cases he
      | closed | broken | used => cases e <;> trivial
    · rw [if_neg he]
      have hother := ih.other he
      cases e with
      | closed h =>
        rw [Use.free]
        split
        · next hu =>
          subst hu
          refine ⟨hother.1, fun h' hm => ?_⟩
          rcases hother.2.2 h' hm with rfl | hm
          · exact List.mem_append_right _ (List.mem_singleton.2 rfl)
          · exact hm
        · exact hother
      | opened | claimed | released | duplicated | closedDuplicate => exact hother

/-! ## What is held -/

/-- Something that is held: a handle, a duplicate, or a handle with the duplicate it is of. -/
structure Item (H D : Type) where
  duplicate : Option D := none
  handle : Option H := none
  claimed : Bool := false
  deriving DecidableEq, Repr

/-- Who holds a handle: whether its interface is claimed. -/
def holders (h : H) (items : List (Item H D)) : List Bool :=
  (items.filter fun i => i.handle = some h).map Item.claimed

/-- Who holds a duplicate: the handle that is of it. -/
def keepers (d : D) (items : List (Item H D)) : List (Option H) :=
  (items.filter fun i => i.duplicate = some d).map Item.handle

/-- Who holds a handle that is there. -/
def Status.held : Status → Option (List Bool)
  | .never | .closed => some []
  | .opened => some [false]
  | .claimed => some [true]
  | .released | .broken => none

/-- Who holds a duplicate that is there. -/
def Use.held : Use H → Option (List (Option H))
  | .never | .closed => some []
  | .idle => some [none]
  | .used h => some [some h]
  | .broken => none

/-- What is held is what is left of the events. -/
structure Accounted (events : List (Event H D)) (items : List (Item H D)) : Prop where
  handles : ∀ h, (status h events).held = some (holders h items)
  duplicates : ∀ d, (use d events).held = some (keepers d items)

omit [DecidableEq D] in
theorem holders_self {h : H} {i : Item H D} {items : List (Item H D)} (hi : i.handle = some h) :
    holders h (i :: items) = i.claimed :: holders h items := by
  unfold holders
  rw [List.filter_cons_of_pos (by simpa using hi), List.map_cons]

omit [DecidableEq D] in
theorem holders_other {h : H} {i : Item H D} {items : List (Item H D)} (hi : i.handle ≠ some h) :
    holders h (i :: items) = holders h items := by
  unfold holders
  rw [List.filter_cons_of_neg (by simpa using hi)]

omit [DecidableEq H] in
theorem keepers_self {d : D} {i : Item H D} {items : List (Item H D)}
    (hi : i.duplicate = some d) : keepers d (i :: items) = i.handle :: keepers d items := by
  unfold keepers
  rw [List.filter_cons_of_pos (by simpa using hi), List.map_cons]

omit [DecidableEq H] in
theorem keepers_other {d : D} {i : Item H D} {items : List (Item H D)}
    (hi : i.duplicate ≠ some d) : keepers d (i :: items) = keepers d items := by
  unfold keepers
  rw [List.filter_cons_of_neg (by simpa using hi)]

/-- Whoever keeps a duplicate for a handle holds the handle. -/
theorem holders_ne_nil {h : H} {d : D} {items : List (Item H D)}
    (hk : some h ∈ keepers d items) : holders h items ≠ [] := by
  obtain ⟨i, hi, hh⟩ := List.mem_map.1 hk
  have hmem : i.claimed ∈ holders h items :=
    List.mem_map_of_mem (List.mem_filter.2 ⟨(List.mem_filter.1 hi).1, decide_eq_true hh⟩)
  exact List.ne_nil_of_mem hmem

/-- The handle of an item. -/
def Status.of (claimed : Bool) : Status := if claimed then .claimed else .opened

/-- The duplicate of an item. -/
def Use.of : Option H → Use H
  | none => .idle
  | some h => .used h

/-- One who holds a handle is the only one. -/
theorem Status.of_held {s : Status} {c : Bool} {rest : List Bool} (h : s.held = some (c :: rest)) :
    s = .of c ∧ rest = [] := by
  cases s <;> cases h <;> exact ⟨rfl, rfl⟩

omit [DecidableEq H] in
/-- One who holds a duplicate is the only one. -/
theorem Use.of_held {u : Use H} {holder : Option H} {rest : List (Option H)}
    (h : u.held = some (holder :: rest)) : u = .of holder ∧ rest = [] := by
  cases u <;> cases h <;> exact ⟨rfl, rfl⟩

theorem Status.held_perm {s : Status} {l l' : List Bool} (h : s.held = some l) (hp : l.Perm l') :
    s.held = some l' := by
  cases s <;> cases h
  case never | closed => rw [List.nil_perm.1 hp]; rfl
  case opened | claimed => rw [← List.singleton_perm.1 hp]; rfl

omit [DecidableEq H] in
theorem Use.held_perm {u : Use H} {l l' : List (Option H)} (h : u.held = some l)
    (hp : l.Perm l') : u.held = some l' := by
  cases u <;> cases h
  case never | closed => rw [List.nil_perm.1 hp]; rfl
  case idle | used => rw [← List.singleton_perm.1 hp]; rfl

namespace Accounted

variable {events : List (Event H D)} {items items' : List (Item H D)}

theorem nil : Accounted ([] : List (Event H D)) [] := ⟨fun _ => rfl, fun _ => rfl⟩

/-- The order of the items does not matter. -/
theorem perm (ha : Accounted events items) (hp : items.Perm items') : Accounted events items' where
  handles h := Status.held_perm (ha.handles h) ((hp.filter _).map _)
  duplicates d := Use.held_perm (ha.duplicates d) ((hp.filter _).map _)

/-- Nothing is nothing. -/
theorem empty_iff {c : Bool} : Accounted events (⟨none, none, c⟩ :: items) ↔
    Accounted events items := by
  have hholders : ∀ h, holders h (⟨none, none, c⟩ :: items) = holders h items :=
    fun _ => holders_other nofun
  have hkeepers : ∀ d, keepers d (⟨none, none, c⟩ :: items) = keepers d items :=
    fun _ => keepers_other nofun
  constructor
  · intro ha
    exact ⟨fun h => hholders h ▸ ha.handles h, fun d => hkeepers d ▸ ha.duplicates d⟩
  · intro ha
    exact ⟨fun h => (hholders h).symm ▸ ha.handles h, fun d => (hkeepers d).symm ▸ ha.duplicates d⟩

/-- The handle of an item, which holds it alone. -/
theorem handle_of {dup : Option D} {h : H} {c : Bool}
    (ha : Accounted events (⟨dup, some h, c⟩ :: items)) :
    status h events = .of c ∧ holders h items = [] := by
  have hh := ha.handles h
  rw [holders_self rfl] at hh
  exact Status.of_held hh

/-- The duplicate of an item, which keeps it alone. -/
theorem duplicate_of {d : D} {holder : Option H} {c : Bool}
    (ha : Accounted events (⟨some d, holder, c⟩ :: items)) :
    use d events = .of holder ∧ keepers d items = [] := by
  have hd := ha.duplicates d
  rw [keepers_self rfl] at hd
  exact Use.of_held hd

theorem some_ne {α : Type} {a b : α} (h : a ≠ b) : some b ≠ some a :=
  fun hc => h (Option.some.inj hc).symm

/-- **A handle is opened**, of a device or of a duplicate that is held. -/
theorem opened {dup : Option D} {h : H} {c : Bool} (hfresh : status h events = .never)
    (ha : Accounted events (⟨dup, none, c⟩ :: items)) :
    Accounted (events ++ [.opened h dup]) (⟨dup, some h, false⟩ :: items) where
  handles h' := by
    have hh := ha.handles h'
    rw [holders_other (by nofun)] at hh
    by_cases heq : h' = h
    · subst heq
      rw [hfresh] at hh
      rw [status_append, Status.step_self rfl, hfresh, holders_self rfl, ← Option.some.inj hh]
      rfl
    · rw [status_append, Status.step_other (by exact some_ne heq),
        holders_other (by exact some_ne heq), hh]
  duplicates d := by
    have hd := ha.duplicates d
    by_cases heq : dup = some d
    · subst heq
      obtain ⟨hu, hk⟩ := ha.duplicate_of
      rw [use_append, Use.step_self rfl, keepers_self rfl, hu, hk]
      rfl
    · rw [keepers_other (by exact heq)] at hd
      rw [use_append, Use.step_other (by exact heq), keepers_other (by exact heq), ← hd]
      rfl

/-- **An interface is claimed.** -/
theorem claimed {dup : Option D} {h : H} (ha : Accounted events (⟨dup, some h, false⟩ :: items)) :
    Accounted (events ++ [.claimed h]) (⟨dup, some h, true⟩ :: items) where
  handles h' := by
    have hh := ha.handles h'
    by_cases heq : h' = h
    · subst heq
      obtain ⟨hs, hrest⟩ := ha.handle_of
      rw [status_append, Status.step_self rfl, holders_self rfl, hs, hrest]
      rfl
    · rw [holders_other (by exact some_ne heq)] at hh
      rw [status_append, Status.step_other (by exact some_ne heq),
        holders_other (by exact some_ne heq), hh]
  duplicates d := by
    have hd := ha.duplicates d
    rw [use_append, Use.step_other (by nofun)]
    by_cases heq : dup = some d
    · rw [keepers_self (by exact heq)] at hd ⊢
      exact hd
    · rw [keepers_other (by exact heq)] at hd ⊢
      exact hd

/-- The end of a handle; the duplicate it is of is idle again. -/
theorem ended {dup : Option D} {h : H} {c c' : Bool} {events' : List (Event H D)}
    (ha : Accounted events (⟨dup, some h, c⟩ :: items)) (hs : status h events' = .closed)
    (hother : ∀ h', h' ≠ h → status h' events' = status h' events)
    (huse : ∀ d, use d events' = if use d events = .used h then .idle else use d events) :
    Accounted events' (⟨dup, none, c'⟩ :: items) where
  handles h' := by
    obtain ⟨-, hrest⟩ := ha.handle_of
    rw [holders_other (by nofun)]
    by_cases heq : h' = h
    · subst heq
      rw [hs, hrest]
      rfl
    · have hh := ha.handles h'
      rw [holders_other (by exact some_ne heq)] at hh
      rw [hother h' heq, hh]
  duplicates d := by
    obtain ⟨-, hrest⟩ := ha.handle_of
    rw [huse d]
    by_cases heq : dup = some d
    · subst heq
      obtain ⟨hu, hk⟩ := ha.duplicate_of
      rw [keepers_self rfl, hu, if_pos (by rfl), hk]
      rfl
    · have hd := ha.duplicates d
      rw [keepers_other (by exact heq)] at hd ⊢
      -- no other duplicate is used by this handle
      rw [if_neg, hd]
      intro hu
      rw [hu] at hd
      have hkept : some h ∈ keepers d items := by
        rw [← Option.some.inj hd]
        exact List.mem_singleton.2 rfl
      exact holders_ne_nil hkept hrest

/-- **A handle is closed** whose interface is not claimed. -/
theorem closed {dup : Option D} {h : H} {c : Bool}
    (ha : Accounted events (⟨dup, some h, false⟩ :: items)) :
    Accounted (events ++ [.closed h]) (⟨dup, none, c⟩ :: items) := by
  obtain ⟨hs, -⟩ := ha.handle_of
  refine ha.ended ?_ (fun h' hne => ?_) fun d => ?_
  · rw [status_append, Status.step_self rfl, hs]
    rfl
  · rw [status_append, Status.step_other (by exact some_ne hne)]
  · rw [use_append, Use.step_other (by nofun)]
    rfl

/-- **An interface that is claimed is released, and its handle closed.** -/
theorem released {dup : Option D} {h : H} {c : Bool}
    (ha : Accounted events (⟨dup, some h, true⟩ :: items)) :
    Accounted (events ++ [.released h] ++ [.closed h]) (⟨dup, none, c⟩ :: items) := by
  obtain ⟨hs, -⟩ := ha.handle_of
  refine ha.ended ?_ (fun h' hne => ?_) fun d => ?_
  · rw [status_append, Status.step_self rfl, status_append, Status.step_self rfl, hs]
    rfl
  · rw [status_append, Status.step_other (by exact some_ne hne), status_append,
      Status.step_other (by exact some_ne hne)]
  · rw [use_append, Use.step_other (by nofun), use_append, Use.step_other (by nofun)]
    rfl

/-- **A duplicate is made.** -/
theorem duplicated {d : D} {c : Bool} (hfresh : use d events = .never)
    (ha : Accounted events items) :
    Accounted (events ++ [.duplicated d]) (⟨some d, none, c⟩ :: items) where
  handles h := by
    rw [status_append, Status.step_other (by nofun), holders_other (by nofun)]
    exact ha.handles h
  duplicates d' := by
    have hd := ha.duplicates d'
    by_cases heq : d' = d
    · subst heq
      rw [hfresh] at hd
      rw [use_append, Use.step_self rfl, keepers_self rfl, hfresh, ← Option.some.inj hd]
      rfl
    · rw [use_append, Use.step_other (by exact some_ne heq),
        keepers_other (by exact some_ne heq), ← hd]
      rfl

/-- **A duplicate is closed.** -/
theorem closedDuplicate {d : D} {c : Bool} (ha : Accounted events (⟨some d, none, c⟩ :: items)) :
    Accounted (events ++ [.closedDuplicate d]) items where
  handles h := by
    have hh := ha.handles h
    rw [holders_other (by nofun)] at hh
    rw [status_append, Status.step_other (by nofun), hh]
  duplicates d' := by
    have hd := ha.duplicates d'
    by_cases heq : d' = d
    · subst heq
      obtain ⟨hu, hk⟩ := ha.duplicate_of
      rw [use_append, Use.step_self rfl, hu, hk]
      rfl
    · rw [keepers_other (by exact some_ne heq)] at hd
      rw [use_append, Use.step_other (by exact some_ne heq), ← hd]
      rfl

end Accounted

/-! ## What has been done -/

theorem count_concerning {h : H} {events : List (Event H D)} {e : Event H D}
    (he : e.handle = some h) : events.count e = (concerning h events).count e := by
  rw [concerning, List.count_filter (by simpa using he)]

/-- A handle that is closed was closed once, and released before that if its interface had been
claimed. -/
theorem story_closed {h : H} {events : List (Event H D)} (hs : status h events = .closed) :
    events.count (.closed h) = 1 ∧ (.claimed h ∈ events →
      events.count (.released h) = 1 ∧
        [.claimed h, .released h, .closed h].Sublist events) := by
  have hstory := status_story h events
  rw [hs] at hstory
  have hsub : (concerning h events).Sublist events := List.filter_sublist
  have hmem : .claimed h ∈ events → .claimed h ∈ concerning h events :=
    fun hm => List.mem_filter.2 ⟨hm, decide_eq_true rfl⟩
  rw [count_concerning (e := .closed h) rfl, count_concerning (e := .released h) rfl]
  obtain ⟨source, heq | heq⟩ := hstory
  · rw [heq] at hmem ⊢
    refine ⟨by simp, fun hm => ?_⟩
    simpa using hmem hm
  · rw [heq] at hsub ⊢
    exact ⟨by simp, fun _ => ⟨by simp, (List.sublist_cons_self _ _).trans hsub⟩⟩

omit [DecidableEq D] in
/-- A handle whose interface is claimed has not been closed. -/
theorem story_claimed {h : H} {events : List (Event H D)} (hs : status h events = .claimed) :
    .claimed h ∈ events ∧ .released h ∉ events ∧ .closed h ∉ events := by
  have hstory := status_story h events
  rw [hs] at hstory
  obtain ⟨source, heq⟩ := hstory
  have hmem : ∀ e : Event H D, e.handle = some h →
      (e ∈ events ↔ e ∈ [Event.opened h source, .claimed h]) := by
    intro e he
    rw [← heq, concerning, List.mem_filter]
    exact (and_iff_left (decide_eq_true he)).symm
  rw [hmem _ rfl, hmem _ rfl, hmem _ rfl]
  simp

end Lib.Custody
