import Px4.Card.Atr

/-!
# Answers to reset that are parsed as they come

* `chain`: what the interface characters so far announce; `chain_append`, `chain_zeros`: what
  follows on them.
* `parseCardAtr_eq`: the parser by what is announced.
* `Doomed`: the strings that are taken for incomplete although they cannot be completed.
-/

namespace Px4.Card

/-! ## What is announced -/

/-- The number of TA, TB and TC that are announced. -/
def charactersOf (interfaces : UInt8) : Nat :=
  (decide (interfaces &&& 0x01 ≠ 0)).toNat + (decide (interfaces &&& 0x02 ≠ 0)).toNat +
    (decide (interfaces &&& 0x04 ≠ 0)).toNat

/-- The number of interface characters that are announced so far, and whether another protocol than
T=0 has been. -/
def chain (interfaces : UInt8) (rest : List UInt8) : Nat × Bool :=
  if interfaces &&& 0x08 ≠ 0 then
    match h : rest.drop (charactersOf interfaces) with
    | [] => (charactersOf interfaces + 1, false)
    | td :: after =>
      let (length, other) := chain (td >>> 4) after
      (charactersOf interfaces + 1 + length, td &&& 0x0f != 0 || other)
  else (charactersOf interfaces, false)
termination_by rest.length
decreasing_by
  have := congrArg List.length h
  rw [List.length_drop, List.length_cons] at this
  omega

section
variable {interfaces td : UInt8} {rest after : List UInt8}

theorem chain_last (h : ¬interfaces &&& 0x08 ≠ 0) (rest : List UInt8) :
    chain interfaces rest = (charactersOf interfaces, false) := by rw [chain, if_neg h]

theorem chain_short (h : interfaces &&& 0x08 ≠ 0) (hrest : rest.length ≤ charactersOf interfaces) :
    chain interfaces rest = (charactersOf interfaces + 1, false) := by
  rw [chain, if_pos h]
  split
  · rfl
  · next hdrop =>
    rw [List.drop_eq_nil_iff.2 hrest] at hdrop
    cases hdrop

theorem chain_cons (h : interfaces &&& 0x08 ≠ 0)
    (hdrop : rest.drop (charactersOf interfaces) = td :: after) :
    chain interfaces rest = (charactersOf interfaces + 1 + (chain (td >>> 4) after).1,
      td &&& 0x0f != 0 || (chain (td >>> 4) after).2) := by
  rw [chain, if_pos h]
  split
  · next hdrop' =>
    rw [hdrop'] at hdrop
    cases hdrop
  · next hdrop' =>
    obtain ⟨rfl, rfl⟩ := List.cons.inj (hdrop'.symm.trans hdrop)
    rfl

theorem charactersOf_le (interfaces : UInt8) (rest : List UInt8) :
    charactersOf interfaces ≤ (chain interfaces rest).1 := by
  rw [chain]
  split
  · split
    · exact Nat.le_succ _
    · exact Nat.le_trans (Nat.le_succ _) (Nat.le_add_right _ _)
  · exact Nat.le_refl _

theorem length_of_drop {count : Nat} (hdrop : rest.drop count = td :: after) :
    rest.length = count + 1 + after.length := by
  have := congrArg List.length hdrop
  rw [List.length_drop, List.length_cons] at this
  omega

theorem drop_append_of_drop {count : Nat} (hdrop : rest.drop count = td :: after)
    (more : List UInt8) :
    (rest ++ more).drop count = td :: (after ++ more) := by
  have := length_of_drop hdrop
  rw [List.drop_append_of_le_length (by omega), hdrop]
  rfl

end

/-- What is announced does not change once it is there. -/
theorem chain_append (interfaces : UInt8) (rest more : List UInt8)
    (h : (chain interfaces rest).1 ≤ rest.length) :
    chain interfaces (rest ++ more) = chain interfaces rest := by
  fun_induction chain interfaces rest with
  | case1 interfaces rest htd hdrop =>
    rw [List.drop_eq_nil_iff] at hdrop
    dsimp only at h
    omega
  | case2 interfaces rest htd td after hdrop length other hchain ih =>
    have := length_of_drop hdrop
    rw [hchain] at ih
    rw [chain_cons htd (drop_append_of_drop hdrop more), ih (by dsimp only at h ⊢; omega)]
  | case3 interfaces rest htd => exact chain_last htd _

/-- More bytes announce no less. -/
theorem chain_mono (interfaces : UInt8) (rest more : List UInt8) :
    (chain interfaces rest).1 ≤ (chain interfaces (rest ++ more)).1 ∧
      ((chain interfaces rest).2 = true → (chain interfaces (rest ++ more)).2 = true) := by
  fun_induction chain interfaces rest with
  | case1 interfaces rest htd hdrop =>
    refine ⟨?_, nofun⟩
    cases hmore : (rest ++ more).drop (charactersOf interfaces) with
    | nil => exact Nat.le_of_eq (by rw [chain_short htd (List.drop_eq_nil_iff.1 hmore)])
    | cons td after =>
      rw [chain_cons htd hmore]
      exact Nat.le_add_right _ _
  | case2 interfaces rest htd td after hdrop length other hchain ih =>
    rw [hchain] at ih
    rw [chain_cons htd (drop_append_of_drop hdrop more)]
    refine ⟨Nat.add_le_add_left ih.1 _, fun h => ?_⟩
    rw [Bool.or_eq_true] at h ⊢
    exact h.imp_right ih.2
  | case3 interfaces rest htd =>
    rw [chain_last htd]
    exact ⟨Nat.le_refl _, nofun⟩

/-- Zeros announce nothing. -/
theorem chain_zeros (interfaces : UInt8) (rest : List UInt8) (count : Nat) :
    chain interfaces (rest ++ List.replicate count 0) = chain interfaces rest := by
  fun_induction chain interfaces rest with
  | case1 interfaces rest htd hdrop =>
    rw [List.drop_eq_nil_iff] at hdrop
    cases hmore : (rest ++ List.replicate count 0).drop (charactersOf interfaces) with
    | nil => rw [chain_short htd (List.drop_eq_nil_iff.1 hmore)]
    | cons td after =>
      have hzero : td ∈ List.replicate count (0 : UInt8) := by
        have hmem : td ∈ (rest ++ List.replicate count 0).drop (charactersOf interfaces) := by
          rw [hmore]
          exact List.mem_cons_self
        rw [List.drop_append, List.drop_eq_nil_iff.2 hdrop, List.nil_append] at hmem
        exact List.mem_of_mem_drop hmem
      obtain rfl := List.eq_of_mem_replicate hzero
      rw [chain_cons htd hmore, chain_last (by decide)]
      rfl
  | case2 interfaces rest htd td after hdrop length other hchain ih =>
    rw [hchain] at ih
    rw [chain_cons htd (drop_append_of_drop hdrop _), ih]
  | case3 interfaces rest htd => exact chain_last htd _

/-! ## The loop over the groups -/

/-- The first of the announced characters. -/
def firstOf (announced : Bool) (rest : List UInt8) : Option UInt8 :=
  if announced = true then rest.head? else none

/-- What follows on it. -/
def afterOf (announced : Bool) (rest : List UInt8) : List UInt8 :=
  if announced = true then rest.tail else rest

/-- TA, TB and TC, and what follows on them. -/
theorem groupCharacters_eq (interfaces : UInt8) (rest : List UInt8) :
    ∃ tb tc, groupCharacters interfaces rest =
      if rest.length < charactersOf interfaces then .error .notReady
      else .ok ((firstOf (interfaces &&& 0x01 ≠ 0) rest, tb, tc),
        rest.drop (charactersOf interfaces)) := by
  unfold charactersOf groupCharacters
  generalize decide (interfaces &&& 0x01 ≠ 0) = hasTa
  generalize decide (interfaces &&& 0x02 ≠ 0) = hasTb
  generalize decide (interfaces &&& 0x04 ≠ 0) = hasTc
  refine ⟨firstOf hasTb (afterOf hasTa rest),
    firstOf hasTc (afterOf hasTb (afterOf hasTa rest)), ?_⟩
  cases hasTa <;> cases hasTb <;> cases hasTc
    <;> rcases rest with _ | ⟨a, _ | ⟨b, _ | ⟨c, rest⟩⟩⟩ <;>
    simp [interfaceCharacter, firstOf, afterOf, bind, Except.bind, pure, Except.pure]

/-- TA1 is there, and selects no baud rate. -/
def BadTa1 (interfaces : UInt8) (rest : List UInt8) : Prop :=
  ∃ ta, firstOf (interfaces &&& 0x01 ≠ 0) rest = some ta ∧ baudRateOf ta = none

/-- What comes of the groups of interface characters. -/
inductive Parsed (interfaces : UInt8) (group : Nat) (s : Groups) (rest : List UInt8) :
    Result (Groups × List UInt8) → Prop
  | short : rest.length < charactersOf interfaces →
      Parsed interfaces group s rest (.error .notReady)
  | unsupported : charactersOf interfaces ≤ rest.length → group = 1 → BadTa1 interfaces rest →
      Parsed interfaces group s rest (.error .unsupported)
  | incomplete : charactersOf interfaces ≤ rest.length → (group = 1 → ¬BadTa1 interfaces rest) →
      rest.length < (chain interfaces rest).1 → Parsed interfaces group s rest (.error .notReady)
  | complete {s' : Groups} : (group = 1 → ¬BadTa1 interfaces rest) →
      (chain interfaces rest).1 ≤ rest.length →
      s'.hasNonT0Protocol = (s.hasNonT0Protocol || (chain interfaces rest).2) →
      Parsed interfaces group s rest (.ok (s', rest.drop (chain interfaces rest).1))

theorem checkTa1_cases (group : Nat) (ta : Option UInt8) (s : Groups) :
    (∃ s', checkTa1 group ta s = .ok s' ∧ s'.hasNonT0Protocol = s.hasNonT0Protocol ∧
        (group = 1 → ¬∃ value, ta = some value ∧ baudRateOf value = none)) ∨
      group = 1 ∧ (∃ value, ta = some value ∧ baudRateOf value = none) ∧
        checkTa1 group ta s = .error .unsupported := by
  unfold checkTa1
  cases ta with
  | none => exact .inl ⟨s, rfl, rfl, fun _ ⟨_, h, _⟩ => nomatch h⟩
  | some ta =>
    dsimp only
    by_cases hgroup : group = 1
    · rw [if_pos hgroup]
      cases hbaud : baudRateOf ta with
      | none => exact .inr ⟨hgroup, ⟨ta, rfl, hbaud⟩, rfl⟩
      | some baudRate =>
        refine .inl ⟨_, rfl, rfl, ?_⟩
        rintro - ⟨_, ⟨⟩, hnone⟩
        exact nomatch hbaud.symm.trans hnone
    · rw [if_neg hgroup]
      exact .inl ⟨s, rfl, rfl, fun h => absurd h hgroup⟩

theorem Parsed.cons {interfaces td : UInt8} {group : Nat} {s s' : Groups} {rest after : List UInt8}
    {result : Result (Groups × List UInt8)} (hgroup : 1 ≤ group) (htd : interfaces &&& 0x08 ≠ 0)
    (hdrop : rest.drop (charactersOf interfaces) = td :: after)
    (hta : group = 1 → ¬BadTa1 interfaces rest)
    (hprotocol : s'.hasNonT0Protocol = (s.hasNonT0Protocol || td &&& 0x0f != 0))
    (h : Parsed (td >>> 4) (group + 1) s' after result) :
    Parsed interfaces group s rest result := by
  have hlength := length_of_drop hdrop
  have hchain := chain_cons htd hdrop
  have hlong : charactersOf interfaces ≤ rest.length := by omega
  cases h with
  | short hshort =>
    have hle := charactersOf_le (td >>> 4) after
    exact .incomplete hlong hta (by rw [hchain]; dsimp only; omega)
  | unsupported _ hfirst => omega
  | incomplete _ _ hshort => exact .incomplete hlong hta (by rw [hchain]; dsimp only; omega)
  | @complete s'' _ hcomplete hprotocol' =>
    have hwhole := @Parsed.complete interfaces group s rest s'' hta
      (by rw [hchain]; dsimp only; omega) (by rw [hchain, hprotocol', hprotocol, Bool.or_assoc])
    rw [hchain, ← List.drop_drop, ← List.drop_drop, hdrop] at hwhole
    exact hwhole

/-- **The loop over the groups.** -/
theorem parseGroups_spec {fuel : Nat} (interfaces : UInt8) (group : Nat)
    (s : Groups) {rest : List UInt8} (hgroup : 1 ≤ group) (hfuel : rest.length < fuel) :
    Parsed interfaces group s rest (parseGroups fuel interfaces group s rest) := by
  induction fuel generalizing interfaces group s rest with
  | zero => omega
  | succ fuel ih =>
    unfold parseGroups
    by_cases hnone : interfaces = 0
    · subst hnone
      have hchain : chain 0 rest = (0, false) := chain_last (by decide) rest
      have hcomplete := @Parsed.complete 0 group s rest s
        (fun _ ⟨_, hta, _⟩ => nomatch hta) (by rw [hchain]; exact Nat.zero_le _)
        (by rw [hchain, Bool.or_false])
      rw [hchain] at hcomplete
      exact hcomplete
    · rw [if_neg hnone]
      obtain ⟨tb, tc, hcharacters⟩ := groupCharacters_eq interfaces rest
      rw [hcharacters]
      split
      · next hshort => exact .short hshort
      next hlong =>
      rw [Nat.not_lt] at hlong
      rcases checkTa1_cases group (firstOf (interfaces &&& 0x01 ≠ 0) rest) s with
        ⟨s', hcheck, hprotocol, hta⟩ | ⟨hfirst, hta, hcheck⟩
      · simp only [hcheck, bind, Except.bind, interfaceCharacter]
        generalize hselected : (if s'.t1Group = true ∧ 3 ≤ group then
          { s' with result := s'.result.select (firstOf (interfaces &&& 0x01 ≠ 0) rest) tb tc }
          else s') = s''
        have hprotocol' : s''.hasNonT0Protocol = s.hasNonT0Protocol := by
          rw [← hselected, ← hprotocol]
          split <;> rfl
        by_cases htd : interfaces &&& 0x08 ≠ 0
        · rw [if_neg (by rw [decide_eq_true htd]; decide)]
          cases hdrop : rest.drop (charactersOf interfaces) with
          | nil =>
            have hchain := chain_short htd (List.drop_eq_nil_iff.1 hdrop)
            exact .incomplete hlong hta
              (by rw [hchain]; exact Nat.lt_succ_of_le (List.drop_eq_nil_iff.1 hdrop))
          | cons td after =>
            have hlength := length_of_drop hdrop
            exact (ih (td >>> 4) (group + 1) _ (by omega) (by omega)).cons hgroup htd hdrop hta
              (by rw [← hprotocol'])
        · rw [if_pos (decide_eq_false htd)]
          have hchain := chain_last htd rest
          have hcomplete := @Parsed.complete interfaces group s rest s'' hta
            (by rw [hchain]; exact hlong) (by rw [hchain, hprotocol', Bool.or_false])
          rw [hchain] at hcomplete
          exact hcomplete
      · simp only [hcheck, bind, Except.bind]
        exact .unsupported hlong hfirst hta

/-! ## The parser -/

/-- The initial character is one of the two conventions. -/
def Initial (ts : UInt8) : Prop := ts = 0x3b ∨ ts = 0x3f

/-- The length that is announced so far. -/
def announced (t0 : UInt8) (rest : List UInt8) : Nat :=
  2 + (chain (t0 >>> 4) rest).1 + (t0 &&& 0x0f).toNat + (chain (t0 >>> 4) rest).2.toNat

/-- A whole ATR. -/
structure Whole (ts t0 : UInt8) (rest : List UInt8) : Prop where
  initial : Initial ts
  ta1 : ¬BadTa1 (t0 >>> 4) rest
  length : rest.length + 2 = announced t0 rest
  limit : announced t0 rest ≤ kPx4CardAtrMaxLength
  checksum : (chain (t0 >>> 4) rest).2 = true → xorOf (t0 :: rest) = 0

/-- What comes of a string that is not too long. -/
inductive Outcome (ts t0 : UInt8) (rest : List UInt8) : Result CardAtr → Prop
  | initial : ¬Initial ts → Outcome ts t0 rest (.error .protocolError)
  | short : Initial ts → rest.length < charactersOf (t0 >>> 4) →
      Outcome ts t0 rest (.error .notReady)
  | unsupported : Initial ts → charactersOf (t0 >>> 4) ≤ rest.length → BadTa1 (t0 >>> 4) rest →
      Outcome ts t0 rest (.error .unsupported)
  | incomplete : Initial ts → ¬BadTa1 (t0 >>> 4) rest → rest.length < (chain (t0 >>> 4) rest).1 →
      Outcome ts t0 rest (.error .notReady)
  | remaining : Initial ts → ¬BadTa1 (t0 >>> 4) rest → announced t0 rest ≤ kPx4CardAtrMaxLength →
      rest.length + 2 < announced t0 rest → Outcome ts t0 rest (.error .notReady)
  | malformed : (chain (t0 >>> 4) rest).1 ≤ rest.length →
      (kPx4CardAtrMaxLength < announced t0 rest ∨ announced t0 rest < rest.length + 2 ∨
        rest.length + 2 = announced t0 rest ∧ (chain (t0 >>> 4) rest).2 = true ∧
        xorOf (t0 :: rest) ≠ 0) →
      Outcome ts t0 rest (.error .protocolError)
  | whole {atr : CardAtr} : Whole ts t0 rest → atr.bytes = ts :: t0 :: rest →
      Outcome ts t0 rest (.ok atr)

/-- **The parser.** -/
theorem parseCardAtr_spec {ts t0 : UInt8} {rest : List UInt8}
    (hlength : rest.length + 2 ≤ kPx4CardAtrMaxLength) :
    Outcome ts t0 rest (parseCardAtr (ByteView.of (ts :: t0 :: rest))) := by
  have hparsed := @parseGroups_spec (rest.length + 2) (t0 >>> 4) 1 {} rest
    (Nat.le_refl 1) (by omega)
  have hsize : (ByteView.of (ts :: t0 :: rest)).size = rest.length + 2 := rfl
  have hbytes : (ByteView.of (ts :: t0 :: rest)).bytes = ts :: t0 :: rest := rfl
  unfold parseCardAtr
  rw [if_neg (fun h => nomatch h.2), hsize, hbytes, if_neg (Nat.not_lt.2 hlength),
    if_neg (by omega)]
  dsimp only
  by_cases hts : ts ≠ 0x3b ∧ ts ≠ 0x3f
  · rw [if_pos hts]
    exact .initial fun h => h.elim hts.1 hts.2
  have hinitial : Initial ts := by
    unfold Initial
    exact or_iff_not_and_not.2 hts
  rw [if_neg hts]
  generalize parseGroups (rest.length + 2) (t0 >>> 4) 1 {} rest = result at hparsed
  cases hparsed with
  | short hshort => exact .short hinitial hshort
  | unsupported hlong _ hbad => exact .unsupported hinitial hlong hbad
  | incomplete _ hta hshort => exact .incomplete hinitial (hta rfl) hshort
  | @complete s' hta hlong hprotocol =>
    have hbad := hta rfl
    have hoffset : rest.length + 2 - (rest.drop (chain (t0 >>> 4) rest).1).length =
        2 + (chain (t0 >>> 4) rest).1 := by
      rw [List.length_drop]
      omega
    have hexpected : 2 + (chain (t0 >>> 4) rest).1 + (t0 &&& 0x0f).toNat +
        (if s'.hasNonT0Protocol = true then 1 else 0) = announced t0 rest := by
      rw [hprotocol, Bool.false_or]
      unfold announced
      cases (chain (t0 >>> 4) rest).2 <;> rfl
    dsimp only
    rw [hoffset, hexpected]
    rw [Bool.false_or] at hprotocol
    split
    · next hlimit => exact .malformed hlong (.inl hlimit)
    next hlimit =>
    rw [Nat.not_lt] at hlimit
    split
    · next hshort => exact .remaining hinitial hbad hlimit hshort
    next hshort =>
    split
    · next htrailing => exact .malformed hlong (.inr (.inl htrailing))
    next htrailing =>
    split
    · next hxor => exact .malformed hlong (.inr (.inr ⟨by omega, hprotocol ▸ hxor⟩))
    · next hxor =>
      refine .whole ⟨hinitial, hbad, by omega, hlimit, fun h => ?_⟩ rfl
      exact of_not_not fun hne => hxor ⟨hprotocol.trans h, hne⟩

theorem parseCardAtr_brief {b : List UInt8} (h : b.length < 2) :
    parseCardAtr (ByteView.of b) = .error .notReady := by
  have hsize : (ByteView.of b).size = b.length := rfl
  unfold parseCardAtr
  rw [if_neg (fun h => nomatch h.2), hsize,
    if_neg (by unfold kPx4CardAtrMaxLength; omega), if_pos h]

theorem parseCardAtr_overlong {b : List UInt8} (h : kPx4CardAtrMaxLength < b.length) :
    parseCardAtr (ByteView.of b) = .error .protocolError := by
  have hsize : (ByteView.of b).size = b.length := rfl
  unfold parseCardAtr
  rw [if_neg (fun h => nomatch h.2), hsize, if_pos h]

/-- An ATR that is accepted. -/
def Accepted (a : List UInt8) : Prop := ∃ atr, parseCardAtr (ByteView.of a) = .ok atr

/-- A string that more bytes make an ATR. -/
def Extendable (b : List UInt8) : Prop := ∃ a, Accepted a ∧ b <+: a ∧ b ≠ a

theorem Whole.le {ts t0 : UInt8} {rest : List UInt8} (h : Whole ts t0 rest) :
    rest.length + 2 ≤ kPx4CardAtrMaxLength := h.length ▸ h.limit

theorem Whole.chain_le {ts t0 : UInt8} {rest : List UInt8} (h : Whole ts t0 rest) :
    (chain (t0 >>> 4) rest).1 ≤ rest.length := by
  have := h.length
  unfold announced at this
  omega

/-- What is accepted. -/
theorem accepted_iff {ts t0 : UInt8} {rest : List UInt8} :
    Accepted (ts :: t0 :: rest) ↔ Whole ts t0 rest := by
  by_cases hlength : rest.length + 2 ≤ kPx4CardAtrMaxLength
  · have hspec := @parseCardAtr_spec ts t0 _ hlength
    unfold Accepted
    generalize parseCardAtr (ByteView.of (ts :: t0 :: rest)) = result at hspec
    have hnot {e : Error} : ¬∃ atr : CardAtr, (.error e : Result CardAtr) = .ok atr := nofun
    cases hspec with
    | initial h => exact iff_of_false hnot fun hwhole => h hwhole.initial
    | short _ h =>
      refine iff_of_false hnot fun hwhole => absurd hwhole.chain_le (Nat.not_le.2 ?_)
      exact Nat.lt_of_lt_of_le h (charactersOf_le _ _)
    | unsupported _ _ h => exact iff_of_false hnot fun hwhole => hwhole.ta1 h
    | incomplete _ _ h =>
      exact iff_of_false hnot fun hwhole => absurd hwhole.chain_le (Nat.not_le.2 h)
    | remaining _ _ _ h => exact iff_of_false hnot fun hwhole => Nat.ne_of_lt h hwhole.length
    | malformed _ h =>
      refine iff_of_false hnot fun hwhole => ?_
      rcases h with hlimit | htrailing | ⟨-, hother, hxor⟩
      · exact Nat.not_lt.2 hwhole.limit hlimit
      · exact Nat.ne_of_gt htrailing hwhole.length
      · exact hxor (hwhole.checksum hother)
    | whole h _ => exact iff_of_true ⟨_, rfl⟩ h
  · exact iff_of_false (fun ⟨atr, h⟩ =>
      nomatch (parseCardAtr_overlong (b := ts :: t0 :: rest) (Nat.not_le.1 hlength)).symm.trans h)
      fun h => hlength h.le

theorem not_accepted_brief {b : List UInt8} (h : b.length < 2) : ¬Accepted b :=
  fun ⟨_, hok⟩ => nomatch (parseCardAtr_brief h).symm.trans hok

/-! ## What can be completed -/

theorem BadTa1.append {interfaces : UInt8} {rest : List UInt8} (h : BadTa1 interfaces rest)
    (more : List UInt8) :
    BadTa1 interfaces (rest ++ more) := by
  obtain ⟨ta, hfirst, hta⟩ := h
  refine ⟨ta, ?_, hta⟩
  unfold firstOf at hfirst ⊢
  cases rest with
  | nil => split at hfirst <;> cases hfirst
  | cons head tail => exact hfirst

theorem announced_mono (t0 : UInt8) (rest more : List UInt8) :
    announced t0 rest ≤ announced t0 (rest ++ more) := by
  have ⟨hlength, hother⟩ := chain_mono (t0 >>> 4) rest more
  have : (chain (t0 >>> 4) rest).2.toNat ≤ (chain (t0 >>> 4) (rest ++ more)).2.toNat := by
    revert hother
    cases (chain (t0 >>> 4) rest).2 <;> cases (chain (t0 >>> 4) (rest ++ more)).2 <;> simp
  unfold announced
  omega

theorem announced_append {t0 : UInt8} {rest : List UInt8} (more : List UInt8)
    (h : (chain (t0 >>> 4) rest).1 ≤ rest.length) :
    announced t0 (rest ++ more) = announced t0 rest := by
  unfold announced
  rw [chain_append _ _ _ h]

/-- What is not yet whole, and may become so. -/
structure Unfinished (ts t0 : UInt8) (rest : List UInt8) : Prop where
  initial : Initial ts
  ta1 : ¬BadTa1 (t0 >>> 4) rest
  length : rest.length + 2 < announced t0 rest
  limit : announced t0 rest ≤ kPx4CardAtrMaxLength

theorem Whole.unfinished {ts t0 : UInt8} {rest more : List UInt8} (h : Whole ts t0 (rest ++ more))
    (hmore : more ≠ []) : Unfinished ts t0 rest where
  initial := h.initial
  ta1 := fun hbad => h.ta1 (hbad.append more)
  length := by
    have hpos := List.length_pos_iff.2 hmore
    rcases Nat.lt_or_ge rest.length (chain (t0 >>> 4) rest).1 with hshort | hlong
    · unfold announced
      omega
    · have hlength := h.length
      rw [announced_append more hlong, List.length_append] at hlength
      omega
  limit := Nat.le_trans (announced_mono t0 rest more) h.limit

/-- No accepted ATR goes on to another one. -/
theorem Whole.not_unfinished {ts t0 : UInt8} {rest : List UInt8} (h : Whole ts t0 rest) :
    ¬Unfinished ts t0 rest := fun hunfinished => Nat.ne_of_lt hunfinished.length h.length

theorem extendable_iff_whole {ts t0 : UInt8} {rest : List UInt8} :
    Extendable (ts :: t0 :: rest) ↔ ∃ more, more ≠ [] ∧ Whole ts t0 (rest ++ more) := by
  constructor
  · rintro ⟨a, haccepted, ⟨more, rfl⟩, hne⟩
    refine ⟨more, fun hmore => hne ?_, accepted_iff.1 haccepted⟩
    rw [hmore, List.append_nil]
  · rintro ⟨more, hmore, hwhole⟩
    refine ⟨_, accepted_iff.2 hwhole, ⟨more, rfl⟩, fun h => hmore ?_⟩
    simpa using h

/-- A string with its first interface character, if that is announced. -/
def withTa1 (t0 : UInt8) (rest : List UInt8) : List UInt8 :=
  if (t0 >>> 4) &&& 0x01 ≠ 0 ∧ rest = [] then [0x11] else rest

/-- A string that is completed up to its checksum. -/
def completedBody (t0 : UInt8) (rest : List UInt8) : List UInt8 :=
  withTa1 t0 rest ++ List.replicate
    (announced t0 rest - 2 - (chain (t0 >>> 4) rest).2.toNat - (withTa1 t0 rest).length) 0

/-- A string that is completed. -/
def completed (t0 : UInt8) (rest : List UInt8) : List UInt8 :=
  if (chain (t0 >>> 4) rest).2 = true then
    completedBody t0 rest ++ [xorOf (t0 :: completedBody t0 rest)]
  else completedBody t0 rest

theorem charactersOf_pos {interfaces : UInt8} (h : interfaces &&& 0x01 ≠ 0) :
    1 ≤ charactersOf interfaces := by
  unfold charactersOf
  rw [decide_eq_true h, Nat.add_assoc]
  exact Nat.le_add_right _ _

theorem chain_withTa1 (t0 : UInt8) (rest : List UInt8) :
    chain (t0 >>> 4) (withTa1 t0 rest) = chain (t0 >>> 4) rest := by
  unfold withTa1
  split
  · next h =>
    obtain ⟨hta, rfl⟩ := h
    by_cases htd : (t0 >>> 4) &&& 0x08 ≠ 0
    · rw [chain_short htd (Nat.le_trans (Nat.le_refl 1) (charactersOf_pos hta)),
        chain_short htd (Nat.zero_le _)]
    · rw [chain_last htd, chain_last htd]
  · rfl

theorem isPrefix_withTa1 (t0 : UInt8) (rest : List UInt8) : rest <+: withTa1 t0 rest := by
  unfold withTa1
  split
  · next h => exact h.2 ▸ List.nil_prefix
  · exact List.prefix_refl _

theorem not_badTa1_withTa1 {t0 : UInt8} {rest : List UInt8} (h : ¬BadTa1 (t0 >>> 4) rest)
    (more : List UInt8) :
    ¬BadTa1 (t0 >>> 4) (withTa1 t0 rest ++ more) := by
  unfold withTa1
  split
  · rintro ⟨ta, hfirst, hta⟩
    unfold firstOf at hfirst
    split at hfirst
    · cases hfirst
      exact nomatch hta
    · cases hfirst
  · next hsettled =>
    rintro ⟨ta, hfirst, hta⟩
    refine h ⟨ta, ?_, hta⟩
    unfold firstOf at hfirst ⊢
    split at hfirst
    · next hannounced =>
      cases rest with
      | nil => exact absurd ⟨of_decide_eq_true hannounced, rfl⟩ hsettled
      | cons head tail => rwa [if_pos hannounced]
    · cases hfirst

theorem Unfinished.withTa1_length {ts t0 : UInt8} {rest : List UInt8} (h : Unfinished ts t0 rest) :
    (withTa1 t0 rest).length + (chain (t0 >>> 4) rest).2.toNat + 2 ≤ announced t0 rest := by
  have hlength := h.length
  have hother := Bool.toNat_le (chain (t0 >>> 4) rest).2
  unfold withTa1
  split
  · next hta =>
    have hchain := charactersOf_le (t0 >>> 4) rest
    have hpos := charactersOf_pos hta.1
    unfold announced
    rw [List.length_singleton]
    omega
  · omega

theorem Unfinished.completedBody_length {ts t0 : UInt8} {rest : List UInt8}
    (h : Unfinished ts t0 rest) :
    (completedBody t0 rest).length + (chain (t0 >>> 4) rest).2.toNat + 2 = announced t0 rest := by
  have := h.withTa1_length
  unfold completedBody
  rw [List.length_append, List.length_replicate]
  omega

theorem chain_completedBody (t0 : UInt8) (rest : List UInt8) :
    chain (t0 >>> 4) (completedBody t0 rest) = chain (t0 >>> 4) rest := by
  unfold completedBody
  rw [chain_zeros, chain_withTa1]

theorem xorOf_append (values : List UInt8) (value : UInt8) :
    xorOf (values ++ [value]) = xorOf values ^^^ value := by
  unfold xorOf
  rw [List.foldl_append]
  rfl

/-- **What is unfinished can be completed.** -/
theorem Unfinished.whole {ts t0 : UInt8} {rest : List UInt8} (h : Unfinished ts t0 rest) :
    Whole ts t0 (completed t0 rest) := by
  have hbody := h.completedBody_length
  have hchain : chain (t0 >>> 4) (completed t0 rest) = chain (t0 >>> 4) rest := by
    unfold completed
    split
    · rw [chain_append, chain_completedBody]
      rw [chain_completedBody]
      unfold announced at hbody
      omega
    · exact chain_completedBody t0 rest
  have hannounced : announced t0 (completed t0 rest) = announced t0 rest := by
    unfold announced
    rw [hchain]
  refine ⟨h.initial, ?_, ?_, hannounced.symm ▸ h.limit, fun hother => ?_⟩
  · unfold completed completedBody
    split
    · rw [List.append_assoc]
      exact not_badTa1_withTa1 h.ta1 _
    · exact not_badTa1_withTa1 h.ta1 _
  · rw [hannounced, ← hbody]
    unfold completed
    split
    · next hother =>
      rw [List.length_append, List.length_singleton, hother]
      rfl
    · next hother =>
      rw [Bool.not_eq_true] at hother
      rw [hother]
      rfl
  · rw [hchain] at hother
    unfold completed
    rw [if_pos hother, ← List.cons_append, xorOf_append]
    exact UInt8.xor_self

theorem isPrefix_completed (t0 : UInt8) (rest : List UInt8) : rest <+: completed t0 rest := by
  have hbody : rest <+: completedBody t0 rest :=
    (isPrefix_withTa1 t0 rest).trans (List.prefix_append _ _)
  unfold completed
  split
  · exact hbody.trans (List.prefix_append _ _)
  · exact hbody

/-- **What can be completed.** -/
theorem extendable_iff {ts t0 : UInt8} {rest : List UInt8} :
    Extendable (ts :: t0 :: rest) ↔ Unfinished ts t0 rest := by
  rw [extendable_iff_whole]
  constructor
  · rintro ⟨more, hmore, hwhole⟩
    exact hwhole.unfinished hmore
  · intro h
    obtain ⟨more, hmore⟩ := isPrefix_completed t0 rest
    have hwhole := h.whole
    rw [← hmore] at hwhole
    refine ⟨more, fun hnil => ?_, hwhole⟩
    rw [hnil, List.append_nil] at hwhole
    exact hwhole.not_unfinished h

/-! ## What is taken for incomplete -/

/-- Strings that are taken for incomplete although no ATR starts with them: a wrong initial
character alone, a wrong TA1 before TB1 or TC1 has come, and interface characters that announce too
much before all have come. -/
inductive Doomed : List UInt8 → Prop
  | initial {ts : UInt8} : ¬Initial ts → Doomed [ts]
  | ta1 {ts t0 : UInt8} {rest : List UInt8} : Initial ts → BadTa1 (t0 >>> 4) rest →
      rest.length < charactersOf (t0 >>> 4) → Doomed (ts :: t0 :: rest)
  | long {ts t0 : UInt8} {rest : List UInt8} : Initial ts → ¬BadTa1 (t0 >>> 4) rest →
      rest.length + 2 ≤ kPx4CardAtrMaxLength → rest.length < (chain (t0 >>> 4) rest).1 →
      kPx4CardAtrMaxLength < announced t0 rest → Doomed (ts :: t0 :: rest)

theorem extendable_initial {ts : UInt8} : Extendable [ts] ↔ Initial ts := by
  constructor
  · rintro ⟨a, haccepted, ⟨more, rfl⟩, hne⟩
    cases more with
    | nil => exact absurd (List.append_nil _).symm hne
    | cons t0 rest => exact (accepted_iff.1 haccepted).initial
  · intro h
    refine ⟨[ts, 0x00], accepted_iff.2 ⟨h, ?_, ?_, ?_, ?_⟩, ⟨[0x00], rfl⟩, nofun⟩
    · rintro ⟨ta, hfirst, -⟩
      exact nomatch hfirst
    · unfold announced
      rw [chain_last (by decide)]
      decide
    · unfold announced
      rw [chain_last (by decide)]
      decide
    · rw [chain_last (by decide)]
      nofun

theorem extendable_nil : Extendable [] := by
  obtain ⟨a, haccepted, -, -⟩ := extendable_initial.2 (.inl rfl : Initial 0x3b)
  refine ⟨a, haccepted, List.nil_prefix, fun h =>
    not_accepted_brief (b := []) Nat.zero_lt_two (h ▸ haccepted)⟩

theorem charactersOf_le_three (interfaces : UInt8) : charactersOf interfaces ≤ 3 := by
  have h := Bool.toNat_le (decide (interfaces &&& 0x01 ≠ 0))
  have h' := Bool.toNat_le (decide (interfaces &&& 0x02 ≠ 0))
  have h'' := Bool.toNat_le (decide (interfaces &&& 0x04 ≠ 0))
  unfold charactersOf
  omega

/-- Before TA, TB and TC have come, little is announced. -/
theorem announced_short {t0 : UInt8} {rest : List UInt8}
    (h : rest.length < charactersOf (t0 >>> 4)) :
    announced t0 rest ≤ kPx4CardAtrMaxLength := by
  have hcharacters := charactersOf_le_three (t0 >>> 4)
  have hhistorical : (t0 &&& 0x0f).toNat ≤ 15 := by
    rw [UInt8.toNat_and]
    exact Nat.and_le_right
  unfold announced kPx4CardAtrMaxLength
  by_cases htd : (t0 >>> 4) &&& 0x08 ≠ 0
  · rw [chain_short htd (Nat.le_of_lt h)]
    dsimp only [Bool.toNat_false]
    omega
  · rw [chain_last htd]
    dsimp only [Bool.toNat_false]
    omega

theorem Doomed.elim_initial {ts t0 : UInt8} {rest : List UInt8} (h : Doomed (ts :: t0 :: rest)) :
    Initial ts := by
  cases h with
  | ta1 h => exact h
  | long h => exact h

theorem Doomed.not_long {ts t0 : UInt8} {rest : List UInt8} (h : Doomed (ts :: t0 :: rest)) :
    ¬(chain (t0 >>> 4) rest).1 ≤ rest.length := by
  cases h with
  | ta1 _ _ hshort =>
    have := charactersOf_le (t0 >>> 4) rest
    omega
  | long _ _ _ hshort => exact Nat.not_le.2 hshort

/-- **What is reported as incomplete.** -/
theorem notReady_iff (b : List UInt8) :
    parseCardAtr (ByteView.of b) = .error .notReady ↔ Extendable b ∨ Doomed b := by
  match b with
  | [] => exact iff_of_true (parseCardAtr_brief Nat.zero_lt_two) (.inl extendable_nil)
  | [ts] =>
    refine iff_of_true (parseCardAtr_brief Nat.one_lt_two) ?_
    by_cases hinitial : Initial ts
    · exact .inl (extendable_initial.2 hinitial)
    · exact .inr (.initial hinitial)
  | ts :: t0 :: rest =>
    rw [extendable_iff]
    have hnot : (∀ e : Error, e ≠ .notReady → ¬(.error e : Result CardAtr) = .error .notReady) :=
      fun e hne h => hne (Except.error.inj h)
    by_cases hlength : rest.length + 2 ≤ kPx4CardAtrMaxLength
    · have hspec := @parseCardAtr_spec ts t0 _ hlength
      generalize parseCardAtr (ByteView.of (ts :: t0 :: rest)) = result at hspec
      cases hspec with
      | initial h =>
        refine iff_of_false (hnot _ nofun) ?_
        rintro (hunfinished | hdoomed)
        · exact h hunfinished.initial
        · exact h hdoomed.elim_initial
      | short hinitial h =>
        refine iff_of_true rfl ?_
        by_cases hbad : BadTa1 (t0 >>> 4) rest
        · exact .inr (.ta1 hinitial hbad h)
        · refine .inl ⟨hinitial, hbad, ?_, announced_short h⟩
          have := charactersOf_le (t0 >>> 4) rest
          unfold announced
          omega
      | unsupported _ hlong h =>
        refine iff_of_false (hnot _ nofun) ?_
        rintro (hunfinished | hdoomed)
        · exact hunfinished.ta1 h
        · cases hdoomed with
          | ta1 _ _ hshort => omega
          | long _ hbad => exact hbad h
      | incomplete hinitial hbad h =>
        refine iff_of_true rfl ?_
        by_cases hlimit : announced t0 rest ≤ kPx4CardAtrMaxLength
        · refine .inl ⟨hinitial, hbad, ?_, hlimit⟩
          unfold announced
          omega
        · exact .inr (.long hinitial hbad hlength h (Nat.not_le.1 hlimit))
      | remaining hinitial hbad hlimit h => exact iff_of_true rfl (.inl ⟨hinitial, hbad, h, hlimit⟩)
      | malformed hlong h =>
        refine iff_of_false (hnot _ nofun) ?_
        rintro (hunfinished | hdoomed)
        · have := hunfinished.length
          have := hunfinished.limit
          omega
        · exact hdoomed.not_long hlong
      | whole h =>
        refine iff_of_false nofun ?_
        rintro (hunfinished | hdoomed)
        · exact h.not_unfinished hunfinished
        · exact hdoomed.not_long h.chain_le
    · rw [parseCardAtr_overlong (b := ts :: t0 :: rest) (Nat.not_le.1 hlength)]
      refine iff_of_false (hnot _ nofun) ?_
      rintro (hunfinished | hdoomed)
      · have := hunfinished.length
        have := hunfinished.limit
        omega
      · cases hdoomed with
        | ta1 _ _ hshort =>
          have := charactersOf_le_three (t0 >>> 4)
          unfold kPx4CardAtrMaxLength at hlength
          omega
        | long _ _ hlength' => exact hlength hlength'

/-- No ATR starts with such a string. -/
theorem Doomed.not_extendable {b : List UInt8} (h : Doomed b) : ¬Extendable b := by
  cases h with
  | initial h => exact fun hextendable => h (extendable_initial.1 hextendable)
  | ta1 _ hbad _ =>
    rw [extendable_iff]
    exact fun hunfinished => hunfinished.ta1 hbad
  | long _ _ _ _ hlimit =>
    rw [extendable_iff]
    exact fun hunfinished => Nat.not_lt.2 hunfinished.limit hlimit

/-- **No accepted ATR is the beginning of another one.** -/
theorem Accepted.not_extendable {a : List UInt8} (h : Accepted a) : ¬Extendable a := by
  match a with
  | [] => exact absurd h (not_accepted_brief (b := []) Nat.zero_lt_two)
  | [ts] => exact absurd h (not_accepted_brief (b := [ts]) Nat.one_lt_two)
  | ts :: t0 :: rest =>
    rw [extendable_iff]
    exact (accepted_iff.1 h).not_unfinished

end Px4.Card
