import Px4.Lib.Program

/-!
# What holds after a program

`After x s Q R`: if `x`, started in `s`, ends with a value, then `Q` holds of it and the last state;
if it stops, then `R` does. The rules take a program apart.

* `after_bind`: programs in sequence.
* `After.mono`: what follows from what holds.
* `After.leaving`: a program that runs at the end of another one, whatever has come of it.
* `After.forM`: loops over a list.
-/

namespace Lib.Program

variable {S E α β : Type}

/-- What holds after a program. -/
def After (x : Program S E α) (s : S) (Q : α → S → Prop) (R : E → S → Prop) : Prop :=
  match x.exec s with
  | (.ok a, s') => Q a s'
  | (.error e, s') => R e s'

variable {x : Program S E α} {s : S} {Q Q' : α → S → Prop} {R R' : E → S → Prop}

@[simp] theorem after_pure (a : α) : After (pure a) s Q R ↔ Q a s := Iff.rfl

@[simp] theorem after_throw (e : E) : After (throw e : Program S E α) s Q R ↔ R e s := Iff.rfl

@[simp] theorem after_get {Q : S → S → Prop} : After (get : Program S E S) s Q R ↔ Q s s := Iff.rfl

@[simp] theorem after_modify (f : S → S) {Q : PUnit → S → Prop} :
    After (modify f : Program S E PUnit) s Q R ↔ Q ⟨⟩ (f s) := Iff.rfl

/-- **In sequence.** -/
@[simp] theorem after_bind (f : α → Program S E β) {Q : β → S → Prop} :
    After (x >>= f) s Q R ↔ After x s (fun a s' => After (f a) s' Q R) R := by
  unfold After
  rw [exec_bind]
  rcases x.exec s with ⟨e | a, s'⟩
  · rfl
  · rfl

theorem After.mono (h : After x s Q R) (hQ : ∀ a s', Q a s' → Q' a s')
    (hR : ∀ e s', R e s' → R' e s') :
    After x s Q' R' := by
  unfold After at h ⊢
  generalize x.exec s = outcome at h ⊢
  obtain ⟨e | a, s'⟩ := outcome
  · exact hR _ _ h
  · exact hQ _ _ h

/-- Both of two things that hold. -/
theorem After.and (h : After x s Q R) (h' : After x s Q' R') :
    After x s (fun a s' => Q a s' ∧ Q' a s') fun e s' => R e s' ∧ R' e s' := by
  unfold After at h h' ⊢
  generalize x.exec s = outcome at h h' ⊢
  obtain ⟨e | a, s'⟩ := outcome
  · exact ⟨h, h'⟩
  · exact ⟨h, h'⟩

/-- What holds on both ways. -/
theorem after_ite {c : Prop} [Decidable c] {y : Program S E α} (hx : After x s Q R)
    (hy : After y s Q R) :
    After (if c then x else y) s Q R := by
  split
  · exact hx
  · exact hy

/-- What holds after a program whose outcome is known. -/
theorem After.ok (h : After x s Q R) {a : α} {s' : S}
    (hexec : x.exec s = (.ok a, s')) : Q a s' := by
  unfold After at h
  rwa [hexec] at h

theorem After.error (h : After x s Q R) {e : E} {s' : S} (hexec : x.exec s = (.error e, s')) :
    R e s' := by
  unfold After at h
  rwa [hexec] at h

/-- What holds of the last state in both cases. -/
theorem After.last {P : S → Prop} (h : After x s (fun _ => P) fun _ => P) : P (x.exec s).2 := by
  unfold After at h
  generalize x.exec s = outcome at h ⊢
  obtain ⟨e | a, s'⟩ := outcome
  · exact h
  · exact h

/-- What holds after the last program, on both ways. -/
theorem After.leaving {last : Program S E Unit} (h : After x s Q' R')
    (hQ : ∀ a s', Q' a s' → After last s' (fun _ => Q a) fun _ => Q a)
    (hR : ∀ e s', R' e s' → After last s' (fun _ => R e) fun _ => R e) :
    After (leaving x last) s Q R := by
  have hlast : ∀ {P : S → Prop} {s' : S}, After last s' (fun _ => P) (fun _ => P) →
      P (last.exec s').2 := fun h => h.last
  unfold After at h ⊢
  rw [Program.leaving, exec_of]
  generalize x.exec s = outcome at h ⊢
  obtain ⟨e | a, s'⟩ := outcome
  · exact hlast (hR e s' h)
  · exact hlast (hQ a s' h)

/-- **Loops**, by induction along the list; the property speaks of the rounds that are done. -/
theorem After.forM {f : β → Program S E PUnit} {l : List β} (I : List β → S → Prop)
    (hf : ∀ done b rest s, l = done ++ b :: rest → I done s →
      After (f b) s (fun _ => I (done ++ [b])) R)
    (hs : I [] s) : After (l.forM f) s (fun _ => I l) R := by
  suffices h : ∀ rest done s, l = done ++ rest → I done s →
      After (rest.forM f) s (fun _ => I l) R from h l [] s rfl hs
  intro rest
  induction rest with
  | nil =>
    intro done s hl hd
    rw [List.append_nil] at hl
    rw [hl]
    exact hd
  | cons b rest ih =>
    intro done s hl hd
    refine (after_bind (x := f b) (fun _ => rest.forM f)).2 ?_
    refine (hf done b rest s hl hd).mono (fun _ s' hs' => ?_) fun _ _ h => h
    exact ih (done ++ [b]) s' (by rw [hl, List.append_assoc]; rfl) hs'

end Lib.Program
