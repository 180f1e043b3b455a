import Mathlib.Data.List.Lex
import Mathlib.Data.Prod.Lex
import Px4.Device.Grouping

/-!
# The orders of the grouping

The three comparisons are those of keys in a linear order: `location_less` of a location's numbers
and ports, `observation_less` and the order of the groups of a base serial, a model (a slot) and a
location. So they are strict weak orders, and observations whose locations compare all compare.
-/

namespace Px4.Device

open Lib (StdSort StrictWeakOn)

/-- A choice and then another one, in the order of their keys. -/
theorem lex_iff {α β κ : Type} [DecidableEq α] [LinearOrder β] [LinearOrder κ] {a a' : α} {b b' : β}
    (key : α → κ) (hkey : key a = key a' → a = a') {l l' : Bool}
    (h : l = true ↔ key a < key a') (h' : l' = true ↔ b < b') :
    (if a ≠ a' then l else l') = true ↔ toLex (key a, b) < toLex (key a', b') := by
  rw [Prod.Lex.toLex_lt_toLex]
  by_cases ha : a = a'
  · rw [if_neg (not_not.2 ha), h', ha]
    simp
  · have hne : key a ≠ key a' := fun he => ha (hkey he)
    rw [if_pos ha, h]
    simp [hne]

theorem map_toNat_injective : Function.Injective (List.map UInt8.toNat) :=
  List.map_injective_iff.2 fun _ _ h => UInt8.toNat_inj.1 h

theorem DeviceModel.raw_injective : Function.Injective DeviceModel.raw := by
  intro a b h
  cases a <;> cases b <;> first | rfl | cases h

/-! ## Locations -/

/-- The key of a location. -/
def UsbLocation.order (location : UsbLocation) : List Nat ×ₗ List Nat :=
  toLex (location.key, location.portPath.map UInt8.toNat)

theorem locationLess_iff (left right : UsbLocation) :
    locationLess left right = true ↔ left.order < right.order := by
  unfold locationLess UsbLocation.order
  exact lex_iff id (fun h => h) decide_eq_true_iff decide_eq_true_iff

/-! ## Observations -/

/-- The key of an observation that has a group key. -/
def GroupKey.order (key : GroupKey) (location : UsbLocation) :
    List Nat ×ₗ (Nat ×ₗ (Nat ×ₗ (List Nat ×ₗ List Nat))) :=
  toLex (key.baseSerial.map UInt8.toNat,
    toLex (key.model.raw, toLex (key.slot, location.order)))

theorem observationLess_iff {left right : DeviceObservation} {leftKey rightKey : GroupKey}
    (hl : groupKey left = .ok leftKey) (hr : groupKey right = .ok rightKey) :
    observationLess left right = true ↔
      leftKey.order left.location < rightKey.order right.location := by
  unfold observationLess
  rw [hl, hr]
  dsimp only
  refine lex_iff (List.map UInt8.toNat) (fun h => map_toNat_injective h) decide_eq_true_iff ?_
  refine lex_iff DeviceModel.raw (fun h => DeviceModel.raw_injective h) decide_eq_true_iff ?_
  refine lex_iff id (fun h => h) decide_eq_true_iff ?_
  exact locationLess_iff _ _

/-- The key of a grouped observation. -/
def DeviceObservation.order (observation : DeviceObservation) :
    List Nat ×ₗ (Nat ×ₗ (Nat ×ₗ (List Nat ×ₗ List Nat))) :=
  match groupKey observation with
  | .ok key => key.order observation.location
  | .error _ => GroupKey.order ⟨[], 0, .pxQ3u4⟩ observation.location

theorem observationLess_iff_order {left right : DeviceObservation}
    (hl : ∃ key, groupKey left = .ok key) (hr : ∃ key, groupKey right = .ok key) :
    observationLess left right = true ↔ left.order < right.order := by
  obtain ⟨leftKey, hl⟩ := hl
  obtain ⟨rightKey, hr⟩ := hr
  rw [observationLess_iff hl hr, DeviceObservation.order, DeviceObservation.order, hl, hr]

/-- Observations of one key have locations of one key. -/
theorem DeviceObservation.order_location {left right : DeviceObservation}
    (h : left.order = right.order) : left.location.order = right.location.order := by
  unfold DeviceObservation.order GroupKey.order at h
  split at h <;> split at h <;>
    exact congrArg (fun k => (ofLex (ofLex (ofLex k).2).2).2) h

/-! ## Groups -/

/-- The location of the first candidate. -/
def Q3U4Group.front (g : Q3U4Group) : UsbLocation :=
  match g.candidates.head? with
  | some c => c.observation.location
  | none => {}

/-- The key of a group. -/
def Q3U4Group.order (g : Q3U4Group) : List Nat ×ₗ (Nat ×ₗ (List Nat ×ₗ List Nat)) :=
  toLex (g.baseSerial.map UInt8.toNat, toLex (g.model.raw, g.front.order))

theorem groupLess_iff {left right : Q3U4Group} (hl : left.candidates ≠ [])
    (hr : right.candidates ≠ []) : groupLess left right = true ↔ left.order < right.order := by
  unfold groupLess Q3U4Group.order
  refine lex_iff (List.map UInt8.toNat) (fun h => map_toNat_injective h) decide_eq_true_iff ?_
  refine lex_iff DeviceModel.raw (fun h => DeviceModel.raw_injective h) decide_eq_true_iff ?_
  obtain ⟨c, cs, hc⟩ := List.exists_cons_of_ne_nil hl
  obtain ⟨d, ds, hd⟩ := List.exists_cons_of_ne_nil hr
  rw [Q3U4Group.front, Q3U4Group.front, hc, hd]
  exact locationLess_iff _ _

end Px4.Device
