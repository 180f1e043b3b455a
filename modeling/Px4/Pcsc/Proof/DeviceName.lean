import Mathlib.Data.List.Nodup
import Px4.Lib.Separated
import Px4.Pcsc.DeviceName

/-!
# The grammar of device names

* `Named`: what a name is made of, as fields with their keys and values.
* `takeField_iff`, `parseField_iff`: one field; `parseFields_split`: the loop over the fields is a
  fold over the parts between colons.
* `foldlM_fields`: what is accepted of a list of fields.
* `device_name`: the names that are accepted, and that the order of their fields does not matter.
-/

namespace Px4.Pcsc

/-! ## Names -/

/-- The keys of a device name. -/
inductive Key
  | runtime | device | instanceName | access
  deriving DecidableEq, Repr

/-- How a key is written. -/
def Key.text : Key → List UInt8
  | .runtime => runtimeKey
  | .device => deviceKey
  | .instanceName => instanceKey
  | .access => accessKey

/-- A serial number. -/
def Serial (value : List UInt8) : Prop :=
  (value.length = 14 ∨ value.length = 15) ∧ ∀ c ∈ value, isDigit c = true

/-- The name of an instance. -/
structure InstanceName (value : List UInt8) : Prop where
  nonempty : value ≠ []
  short : value.length ≤ 80
  noDirectory : value ≠ text ['.'] ∧ value ≠ text ['.', '.']
  noSerial : ¬Serial value
  characters : ∀ c ∈ value, isInstanceCharacter c = true

/-- The values that are valid for a key. -/
def Key.Valid (key : Key) (value : List UInt8) : Prop :=
  (value ≠ [] ∧ ∀ c ∈ value, isFieldCharacter c = true) ∧
    match key with
    | .runtime => value.head? = some slash
    | .device => Serial value
    | .instanceName => InstanceName value
    | .access => value = userAccess ∨ value = groupAccess

/-- A field. -/
structure Field where
  key : Key
  value : List UInt8

/-- How a field is written. -/
def Field.text (field : Field) : List UInt8 := field.key.text ++ equalsSign :: field.value

/-- Fields that name a device. -/
structure Named (fields : List Field) : Prop where
  keys : (fields.map Field.key).Nodup
  valid : ∀ field ∈ fields, field.key.Valid field.value
  exclusive : Xor (Key.device ∈ fields.map Field.key) (Key.instanceName ∈ fields.map Field.key)

/-- The name that is written with some fields. -/
def nameOf (fields : List Field) : List UInt8 :=
  kDevicePrefix ++ [colon].intercalate (fields.map Field.text)

/-- The endpoint that fields describe. -/
structure Describes (fields : List Field) (endpoint : IfdEndpoint) : Prop where
  runtime : ∀ value, ⟨.runtime, value⟩ ∈ fields → endpoint.runtimeDirectory = value
  noRuntime : Key.runtime ∉ fields.map Field.key → endpoint.runtimeDirectory = []
  device : ∀ value, ⟨.device, value⟩ ∈ fields ∨ ⟨.instanceName, value⟩ ∈ fields →
    endpoint.deviceInstance = value
  access : endpoint.groupAccess = true ↔ ⟨.access, groupAccess⟩ ∈ fields

/-! ## One field -/

theorem validSerial_iff (value : List UInt8) : validSerial value = true ↔ Serial value := by
  unfold validSerial Serial
  split
  · next h => simp [not_or.2 h]
  · next h => rw [List.all_eq_true, and_iff_right (by omega)]

theorem validInstance_iff (value : List UInt8) : validInstance value = true ↔
    InstanceName value := by
  unfold validInstance
  split
  · next h =>
    rw [validSerial_iff] at h
    refine iff_of_false (by simp) fun hname => ?_
    rcases h with h | h | h | h | h
    · exact hname.nonempty h
    · exact absurd hname.short (by omega)
    · exact hname.noDirectory.1 h
    · exact hname.noDirectory.2 h
    · exact hname.noSerial h
  · next h =>
    rw [validSerial_iff] at h
    simp only [not_or] at h
    obtain ⟨hnonempty, hshort, hdot, hdots, hserial⟩ := h
    rw [List.all_eq_true]
    exact ⟨fun h => ⟨hnonempty, by omega, ⟨hdot, hdots⟩, hserial, h⟩, InstanceName.characters⟩

theorem validFieldValue_iff (value : List UInt8) :
    validFieldValue value = true ↔ value ≠ [] ∧ ∀ c ∈ value, isFieldCharacter c = true := by
  unfold validFieldValue
  split
  · next h => simp [h]
  · next h => rw [List.all_eq_true, and_iff_right h]

/-- A key has been given. -/
def Fields.have (fields : Fields) : Key → Bool
  | .runtime => fields.haveRuntime
  | .device => fields.haveDevice
  | .instanceName => fields.haveInstance
  | .access => fields.haveAccess

/-- What a field adds. -/
def Fields.add (fields : Fields) (field : Field) : Fields :=
  match field.key with
  | .runtime => { fields with
      endpoint := { fields.endpoint with runtimeDirectory := field.value }, haveRuntime := true }
  | .device => { fields with
      endpoint := { fields.endpoint with deviceInstance := field.value }, haveDevice := true }
  | .instanceName => { fields with
      endpoint := { fields.endpoint with deviceInstance := field.value }, haveInstance := true }
  | .access => { fields with
      endpoint := { fields.endpoint with groupAccess := field.value = groupAccess },
        haveAccess := true }

theorem Fields.add_have (fields : Fields) (field : Field) (key : Key) :
    (fields.add field).have key = (fields.have key || decide (key = field.key)) := by
  obtain ⟨key', value⟩ := field
  cases key <;> cases key' <;> simp [Fields.have, Fields.add]

theorem takeField_of_valid {k : Key} {value : List UInt8} {fields : Fields} (hvalid : k.Valid value)
    (hhave : fields.have k = false) : takeField k.text value fields =
    .ok (fields.add ⟨k, value⟩) := by
  obtain ⟨hfield, hkey⟩ := hvalid
  have hnew : fields.have k ≠ true := by simp [hhave]
  unfold takeField
  rw [if_neg (by simp [(validFieldValue_iff value).2 hfield])]
  cases k with
  | runtime =>
    rw [if_pos (by decide), if_neg]
    · rfl
    · exact not_or.2 ⟨hnew, not_not.2 hkey⟩
  | device =>
    rw [if_neg (by decide), if_pos (by decide), if_neg]
    · rfl
    · exact not_or.2 ⟨hnew, by simp [(validSerial_iff value).2 hkey]⟩
  | instanceName =>
    rw [if_neg (by decide), if_neg (by decide), if_pos (by decide), if_neg]
    · rfl
    · exact not_or.2 ⟨hnew, by simp [(validInstance_iff value).2 hkey]⟩
  | access =>
    rw [if_neg (by decide), if_neg (by decide), if_neg (by decide), if_pos (by decide), if_neg]
    · rfl
    · exact not_or.2 ⟨hnew, fun h => hkey.elim h.1 h.2⟩

/-- **A field is taken if its key is one of the four, its value is valid for it and it is the first
one with this key.** -/
theorem takeField_iff (key value : List UInt8) (fields fields' : Fields) :
    takeField key value fields = .ok fields' ↔
      ∃ k : Key, key = k.text ∧ k.Valid value ∧ fields.have k = false ∧
      fields' = fields.add ⟨k, value⟩ := by
  constructor
  · intro h
    unfold takeField at h
    split at h
    · cases h
    · next hfield =>
      have hfield := (validFieldValue_iff value).1 (Bool.not_eq_false _ ▸ hfield)
      split at h
      · next hkey =>
        split at h
        · cases h
        · next hvalid =>
          obtain ⟨hnew, hslash⟩ := not_or.1 hvalid
          cases h
          exact ⟨.runtime, hkey, ⟨hfield, not_not.1 hslash⟩, eq_false_of_ne_true hnew, rfl⟩
      split at h
      · next hkey =>
        split at h
        · cases h
        · next hvalid =>
          obtain ⟨hnew, hserial⟩ := not_or.1 hvalid
          cases h
          exact ⟨.device, hkey, ⟨hfield, (validSerial_iff value).1 (by simpa using hserial)⟩,
            eq_false_of_ne_true hnew, rfl⟩
      split at h
      · next hkey =>
        split at h
        · cases h
        · next hvalid =>
          obtain ⟨hnew, hname⟩ := not_or.1 hvalid
          cases h
          exact ⟨.instanceName, hkey, ⟨hfield, (validInstance_iff value).1 (by simpa using hname)⟩,
            eq_false_of_ne_true hnew, rfl⟩
      split at h
      · next hkey =>
        split at h
        · cases h
        · next hvalid =>
          obtain ⟨hnew, haccess⟩ := not_or.1 hvalid
          cases h
          exact ⟨.access, hkey, ⟨hfield, by tauto⟩, eq_false_of_ne_true hnew, rfl⟩
      · cases h
  · rintro ⟨k, rfl, hvalid, hhave, rfl⟩
    exact takeField_of_valid hvalid hhave

theorem equalsSign_not_mem_key (k : Key) : equalsSign ∉ k.text := by cases k <;> decide

/-- **One field.** -/
theorem parseField_iff (field : List UInt8) (fields fields' : Fields) :
    parseField field fields = .ok fields' ↔
      ∃ f : Field, field = f.text ∧ f.key.Valid f.value ∧ fields.have f.key = false ∧
        fields' = fields.add f := by
  unfold parseField
  constructor
  · intro h
    cases hequals : field.idxOf? equalsSign with
    | none => cases hequals ▸ h
    | some equals =>
      rw [hequals] at h
      obtain ⟨key, value, rfl, -, rfl⟩ := Lib.idxOf?_iff.1 hequals
      dsimp only at h
      split at h
      · cases h
      · rw [List.take_left' rfl, ← List.drop_drop, List.drop_left' rfl, List.drop_one,
          List.tail_cons] at h
        obtain ⟨k, rfl, hvalid, hhave, rfl⟩ := (takeField_iff _ _ _ _).1 h
        exact ⟨⟨k, value⟩, rfl, hvalid, hhave, rfl⟩
  · rintro ⟨⟨k, value⟩, rfl, hvalid, hhave, rfl⟩
    have hequals : (Field.text ⟨k, value⟩).idxOf? equalsSign = some k.text.length :=
      Lib.idxOf?_iff.2 ⟨k.text, value, rfl, equalsSign_not_mem_key k, rfl⟩
    have hkey : k.text.length ≠ 0 := by cases k <;> decide
    have hvalue : value.length ≠ 0 := by simpa using hvalid.1.1
    have hlength : (Field.text ⟨k, value⟩).length = k.text.length + (value.length + 1) := by
      simp [Field.text]
    rw [hequals]
    dsimp only
    rw [if_neg]
    · unfold Field.text
      rw [List.take_left' rfl, ← List.drop_drop, List.drop_left' rfl, List.drop_one, List.tail_cons]
      exact takeField_of_valid hvalid hhave
    · rw [hlength, not_or, not_or]
      refine ⟨fun hnil => ?_, hkey, by omega⟩
      rw [hnil] at hlength
      simp at hlength

/-! ## All fields -/

/-- The fields, one after the other. -/
abbrev foldFields (parts : List (List UInt8)) (fields : Fields) : Result Fields :=
  parts.foldlM (fun fields part => parseField part fields) fields

/-- **The loop over the fields takes the parts between colons one after the other.** -/
theorem parseFields_split {fuel : Nat} {rest : List UInt8} (hfuel : rest.length < fuel)
    (hrest : rest ≠ []) (fields : Fields) : parseFields fuel rest fields =
    foldFields (rest.splitOn colon) fields := by
  induction fuel generalizing rest fields with
  | zero => omega
  | succ fuel ih =>
    unfold parseFields
    rw [if_neg hrest]
    dsimp only
    cases hseparator : rest.idxOf? colon with
    | none =>
      rw [List.splitOn_eq_singleton (List.idxOf?_eq_none_iff.1 hseparator),
        Option.getD_none, List.take_length,
        foldFields, List.foldlM_cons]
      cases parseField rest fields with
      | error e => rfl
      | ok fields => rfl
    | some separator =>
      obtain ⟨part, after, rfl, hpart, rfl⟩ := Lib.idxOf?_iff.1 hseparator
      have hdrop : (part ++ colon :: after).drop (part.length + 1) = after := by simp
      rw [List.splitOn_append_cons_self_of_not_mem hpart, Option.getD_some,
        List.take_left' rfl, foldFields,
        List.foldlM_cons]
      cases parseField part fields with
      | error e => rfl
      | ok fields =>
        dsimp only
        rw [hdrop]
        split
        · next hafter =>
          rw [hafter]
          rfl
        · next hafter =>
          refine ih ?_ hafter fields
          rw [List.length_append, List.length_cons] at hfuel
          omega

theorem have_foldl (fs : List Field) (fields : Fields) (key : Key) :
    (fs.foldl Fields.add fields).have key =
    (fields.have key || decide (key ∈ fs.map Field.key)) := by
  induction fs generalizing fields with
  | nil => simp
  | cons f fs ih =>
    rw [List.foldl_cons, ih, Fields.add_have, Bool.or_assoc, List.map_cons]
    simp [List.mem_cons]

/-- **The fields that are accepted.** -/
theorem foldlM_fields (parts : List (List UInt8)) (fields fields' : Fields) :
    foldFields parts fields = .ok fields' ↔
      ∃ fs : List Field, parts = fs.map Field.text ∧ (∀ f ∈ fs, f.key.Valid f.value) ∧
        (fs.map Field.key).Nodup ∧ (∀ f ∈ fs, fields.have f.key = false) ∧
        fields' = fs.foldl Fields.add fields := by
  induction parts generalizing fields with
  | nil =>
    constructor
    · rintro ⟨⟩
      exact ⟨[], rfl, nofun, List.nodup_nil, nofun, rfl⟩
    · rintro ⟨fs, hparts, -, -, -, rfl⟩
      rw [List.map_eq_nil_iff.1 hparts.symm]
      rfl
  | cons part parts ih =>
    rw [foldFields, List.foldlM_cons]
    constructor
    · intro h
      cases hpart : parseField part fields with
      | error e =>
        rw [hpart] at h
        cases h
      | ok next =>
        rw [hpart] at h
        obtain ⟨f, rfl, hvalid, hhave, rfl⟩ := (parseField_iff _ _ _).1 hpart
        obtain ⟨fs, rfl, hvalids, hnodup, hnew, rfl⟩ := (ih _).1 h
        have hfirst : ∀ f' ∈ fs, f'.key ≠ f.key ∧ fields.have f'.key = false := fun f' hf' => by
          have := hnew f' hf'
          rw [Fields.add_have, Bool.or_eq_false_iff, decide_eq_false_iff_not] at this
          exact this.symm
        refine ⟨f :: fs, rfl, List.forall_mem_cons.2 ⟨hvalid, hvalids⟩, ?_,
          List.forall_mem_cons.2 ⟨hhave, fun f' hf' => (hfirst f' hf').2⟩, rfl⟩
        rw [List.map_cons, List.nodup_cons]
        refine ⟨fun hmem => ?_, hnodup⟩
        obtain ⟨f', hf', hkey⟩ := List.mem_map.1 hmem
        exact (hfirst f' hf').1 hkey
    · rintro ⟨fs, hparts, hvalid, hnodup, hnew, rfl⟩
      cases fs with
      | nil => cases hparts
      | cons f fs =>
        obtain ⟨rfl, rfl⟩ := List.cons.inj hparts
        rw [List.map_cons, List.nodup_cons] at hnodup
        have hstep := (parseField_iff f.text fields _).2
          ⟨f, rfl, hvalid f List.mem_cons_self, hnew f List.mem_cons_self, rfl⟩
        rw [hstep]
        refine (ih _).2 ⟨fs, rfl, fun f' hf' => hvalid f' (List.mem_cons_of_mem _ hf'), hnodup.2,
          fun f' hf' => ?_, rfl⟩
        rw [Fields.add_have, hnew f' (List.mem_cons_of_mem _ hf'), Bool.false_or,
          decide_eq_false_iff_not]
        exact fun hkey => hnodup.1 (hkey ▸ List.mem_map_of_mem hf')

/-! ## The endpoint -/

section
variable {β : Type} (p : IfdEndpoint → β) {fs : List Field}

theorem foldl_keeps (h : ∀ f ∈ fs, ∀ fields : Fields, p (fields.add f).endpoint = p fields.endpoint)
    (fields : Fields) : p (fs.foldl Fields.add fields).endpoint = p fields.endpoint := by
  induction fs generalizing fields with
  | nil => rfl
  | cons f fs ih =>
    rw [List.foldl_cons, ih (fun f' hf' => h f' (List.mem_cons_of_mem _ hf'))]
    exact h f List.mem_cons_self fields

/-- A part of the endpoint that no field but `f` sets. -/
theorem foldl_sets {f : Field} (hf : f ∈ fs) (hnodup : (fs.map Field.key).Nodup)
    (h : ∀ f' ∈ fs, f'.key ≠ f.key → ∀ fields : Fields,
      p (fields.add f').endpoint = p fields.endpoint)
    (fields : Fields) :
    ∃ before : Fields, p (fs.foldl Fields.add fields).endpoint = p (before.add f).endpoint := by
  obtain ⟨before, after, rfl⟩ := List.append_of_mem hf
  rw [List.map_append, List.map_cons, List.nodup_append] at hnodup
  refine ⟨before.foldl Fields.add fields, ?_⟩
  rw [List.foldl_append, List.foldl_cons]
  refine foldl_keeps p (fun f' hf' => ?_) _
  refine h f' (List.mem_append_right _ (List.mem_cons_of_mem _ hf')) fun hkey => ?_
  exact (List.nodup_cons.1 hnodup.2.1).1 (hkey ▸ List.mem_map_of_mem hf')

end

theorem Named.unique {fs : List Field} (h : Named fs) {f f' : Field} (hf : f ∈ fs) (hf' : f' ∈ fs)
    (hkey : f.key = f'.key) : f = f' := List.inj_on_of_nodup_map h.keys hf hf' hkey

/-- The key of the device instance is one of two. -/
theorem Named.not_both {fs : List Field} (h : Named fs) {f f' : Field} (hf : f ∈ fs) (hf' : f' ∈ fs)
    (hdevice : f.key = .device) (hinstance : f'.key = .instanceName) : False := by
  have hdevice := hdevice ▸ List.mem_map_of_mem (f := Field.key) hf
  have hinstance := hinstance ▸ List.mem_map_of_mem (f := Field.key) hf'
  exact h.exclusive.elim (fun h => h.2 hinstance) fun h => h.2 hdevice

/-- The endpoint that is parsed is the one that the fields describe. -/
theorem Named.describes {fs : List Field} (h : Named fs) :
    Describes fs (fs.foldl Fields.add {}).endpoint where
  runtime := fun value hf => by
    obtain ⟨before, heq⟩ := foldl_sets IfdEndpoint.runtimeDirectory hf h.keys
      (fun ⟨key, value⟩ _ hkey fields => by cases key <;> first | rfl | exact absurd rfl hkey) {}
    exact heq
  noRuntime := fun hnot => by
    refine foldl_keeps IfdEndpoint.runtimeDirectory (fun ⟨key, value⟩ hf fields => ?_) {}
    have hkey := List.mem_map_of_mem (f := Field.key) hf
    cases key <;> first | rfl | exact absurd hkey hnot
  device := fun value hf => by
    rcases hf with hf | hf
    · obtain ⟨before, heq⟩ := foldl_sets IfdEndpoint.deviceInstance hf h.keys
        (fun ⟨key, value⟩ hf' hkey fields => by
          cases key with
          | device => exact absurd rfl hkey
          | instanceName => exact (h.not_both hf hf' rfl rfl).elim
          | runtime | access => rfl) {}
      exact heq
    · obtain ⟨before, heq⟩ := foldl_sets IfdEndpoint.deviceInstance hf h.keys
        (fun ⟨key, value⟩ hf' hkey fields => by
          cases key with
          | device => exact (h.not_both hf' hf rfl rfl).elim
          | instanceName => exact absurd rfl hkey
          | runtime | access => rfl) {}
      exact heq
  access := by
    by_cases haccess : ∃ value, ⟨.access, value⟩ ∈ fs
    · obtain ⟨value, hf⟩ := haccess
      obtain ⟨before, heq⟩ := foldl_sets IfdEndpoint.groupAccess hf h.keys
        (fun ⟨key, value⟩ _ hkey fields => by cases key <;> first | rfl | exact absurd rfl hkey) {}
      rw [heq]
      show decide (value = groupAccess) = true ↔ _
      rw [decide_eq_true_iff]
      constructor
      · rintro rfl
        exact hf
      · intro hgroup
        exact congrArg Field.value (h.unique hf hgroup rfl)
    · have hkeeps := @foldl_keeps _ IfdEndpoint.groupAccess fs (fun ⟨key, value⟩ hf fields => by
        cases key with
        | access => exact absurd ⟨value, hf⟩ haccess
        | runtime | device | instanceName => rfl) {}
      rw [hkeeps]
      exact iff_of_false (by decide) fun hf => haccess ⟨_, hf⟩

/-! ## Names as a whole -/

/-- A string that is ended by the first NUL. -/
def cString (name : List UInt8) : List UInt8 := name.takeWhile (· ≠ 0)

theorem scanLength_eq (bound : Nat) (name : List UInt8) :
    scanLength bound name = min bound (cString name).length := by
  induction bound generalizing name with
  | zero => simp [scanLength]
  | succ bound ih =>
    cases name with
    | nil => simp [scanLength, cString]
    | cons c name =>
      unfold scanLength
      split
      · next h => simp [cString, h]
      · next h =>
        rw [ih]
        have hcons : cString (c :: name) = c :: cString name := by simp [cString, h]
        rw [hcons, List.length_cons]
        omega

theorem take_cString (name : List UInt8) : name.take (cString name).length = cString name :=
  (List.prefix_iff_eq_take.1 (List.takeWhile_prefix _)).symm

theorem Key.Valid.no_colon {key : Key} {value : List UInt8} (h : key.Valid value) : colon ∉ value :=
  fun hmem => absurd (h.1.2 _ hmem) (by decide)

theorem Field.no_colon {f : Field} (h : f.key.Valid f.value) : colon ∉ f.text := by
  unfold Field.text
  rw [List.mem_append, List.mem_cons, not_or, not_or]
  exact ⟨by cases f.key <;> decide, by decide, h.no_colon⟩

theorem Named.nonempty {fs : List Field} (h : Named fs) : fs ≠ [] := by
  rintro rfl
  exact h.exclusive.elim (fun h => nomatch h.1) fun h => nomatch h.1

theorem haveDevice_ne_iff (fs : List Field) :
    (fs.foldl Fields.add {}).haveDevice ≠ (fs.foldl Fields.add {}).haveInstance ↔
      Xor (Key.device ∈ fs.map Field.key) (Key.instanceName ∈ fs.map Field.key) := by
  have hdevice : (fs.foldl Fields.add {}).haveDevice = _ := have_foldl fs {} .device
  have hinstance : (fs.foldl Fields.add {}).haveInstance = _ := have_foldl fs {} .instanceName
  have hnew : ∀ key : Key, ({} : Fields).have key = false := fun key => by cases key <;> rfl
  rw [hdevice, hinstance, hnew, hnew, Bool.false_or, Bool.false_or, xor_iff_not_iff, ne_eq,
    decide_eq_decide]

/-- What follows on the prefix of a name. -/
def afterPrefix (fs : List Field) : List UInt8 := [colon].intercalate (fs.map Field.text)

theorem splitOn_afterPrefix {fs : List Field} (h : Named fs) :
    (afterPrefix fs).splitOn colon = fs.map Field.text := by
  refine List.splitOn_intercalate colon (fun part hpart => ?_) (by simpa using h.nonempty)
  obtain ⟨f, hf, rfl⟩ := List.mem_map.1 hpart
  exact Field.no_colon (h.valid f hf)

theorem afterPrefix_ne_nil {fs : List Field} (h : Named fs) : afterPrefix fs ≠ [] := by
  intro hnil
  have hsplit := splitOn_afterPrefix h
  rw [hnil, List.splitOn_nil] at hsplit
  cases fs with
  | nil => exact h.nonempty rfl
  | cons f fs =>
    have htext : f.text = [] := (List.cons.inj hsplit).1.symm
    simp [Field.text] at htext

/-- The fields of a name, after its prefix. -/
theorem parseFields_iff {rest : List UInt8} {fuel : Nat} (hfuel : rest.length < fuel)
    (hrest : rest ≠ []) (endpoint : IfdEndpoint) :
    (∃ fields, parseFields fuel rest {} = .ok fields ∧ fields.haveDevice ≠ fields.haveInstance ∧
        fields.endpoint = endpoint) ↔
      ∃ fs, Named fs ∧ rest = afterPrefix fs ∧ (fs.foldl Fields.add {}).endpoint = endpoint := by
  rw [parseFields_split hfuel hrest]
  constructor
  · rintro ⟨fields, hfold, hexclusive, rfl⟩
    obtain ⟨fs, hparts, hvalid, hnodup, -, rfl⟩ := (foldlM_fields _ _ _).1 hfold
    refine ⟨fs, ⟨hnodup, hvalid, (haveDevice_ne_iff fs).1 hexclusive⟩, ?_, rfl⟩
    unfold afterPrefix
    rw [← hparts, List.intercalate_splitOn]
  · rintro ⟨fs, hnamed, rfl, rfl⟩
    refine ⟨fs.foldl Fields.add {}, ?_, (haveDevice_ne_iff fs).2 hnamed.exclusive, rfl⟩
    rw [splitOn_afterPrefix hnamed]
    refine (foldlM_fields _ _ _).2 ⟨fs, rfl, hnamed.valid, hnamed.keys, fun f _ => ?_, rfl⟩
    cases f.key <;> rfl

/-- The names that are accepted, with what is made of them. -/
theorem parseIfdDeviceName_iff (name : List UInt8) (endpoint : IfdEndpoint) :
    parseIfdDeviceName (some name) = .ok endpoint ↔
      (cString name).length ≤ kIfdDeviceNameMaxLength ∧ ∃ fs, Named fs ∧ cString name = nameOf fs ∧
        (fs.foldl Fields.add {}).endpoint = endpoint := by
  unfold parseIfdDeviceName
  dsimp only
  rw [scanLength_eq]
  by_cases hlong : kIfdDeviceNameMaxLength < (cString name).length
  · rw [if_pos (.inr (by omega))]
    exact iff_of_false nofun fun h => absurd h.1 (by omega)
  rw [Nat.min_eq_right (by omega), take_cString]
  generalize cString name = input at hlong ⊢
  by_cases hprefix : kDevicePrefix.length < input.length ∧
    input.take kDevicePrefix.length = kDevicePrefix
  · obtain ⟨hlength, htake⟩ := hprefix
    rw [if_neg (by omega), if_neg (not_or.2 ⟨by omega, not_not.2 htake⟩), and_iff_right (by omega)]
    have hrest : input.drop kDevicePrefix.length ≠ [] := by
      rw [ne_eq, List.drop_eq_nil_iff]
      omega
    have hsplit : ∀ fs, input = nameOf fs ↔ input.drop kDevicePrefix.length =
        afterPrefix fs := fun fs => by
      constructor
      · rintro rfl
        exact List.drop_left' rfl
      · intro h
        rw [← List.take_append_drop kDevicePrefix.length input, htake, h]
        rfl
    simp only [hsplit]
    rw [← @parseFields_iff _ (input.length + 1) (by rw [List.length_drop]; omega) hrest]
    cases parseFields (input.length + 1) (input.drop kDevicePrefix.length) {} with
    | error e => exact iff_of_false nofun fun ⟨_, h, _⟩ => nomatch h
    | ok fields =>
      dsimp only
      split
      · next hsame =>
        refine iff_of_false nofun ?_
        rintro ⟨_, ⟨⟩, hexclusive, -⟩
        exact hexclusive hsame
      · next hexclusive =>
        constructor
        · rintro ⟨⟩
          exact ⟨fields, rfl, hexclusive, rfl⟩
        · rintro ⟨_, ⟨⟩, -, rfl⟩
          rfl
  · refine iff_of_false (fun h => ?_) ?_
    · split at h
      · cases h
      · rw [if_pos] at h
        · cases h
        · rw [not_and_or] at hprefix
          exact hprefix.imp_left fun h => by omega
    · rintro ⟨-, fs, hnamed, rfl, -⟩
      refine hprefix ⟨?_, List.take_left' rfl⟩
      have := List.length_pos_iff.2 (afterPrefix_ne_nil hnamed)
      show _ < (kDevicePrefix ++ afterPrefix fs).length
      rw [List.length_append]
      omega

/-! ## The order of the fields -/

theorem Named.perm {fs fs' : List Field} (h : Named fs) (hperm : fs.Perm fs') : Named fs' where
  keys := (hperm.map _).nodup_iff.1 h.keys
  valid := fun f hf => h.valid f (hperm.mem_iff.2 hf)
  exclusive := by
    rw [← (hperm.map Field.key).mem_iff, ← (hperm.map Field.key).mem_iff]
    exact h.exclusive

/-- The order of the fields does not matter for the endpoint. -/
theorem Named.endpoint_perm {fs fs' : List Field} (h : Named fs) (hperm : fs.Perm fs') :
    (fs'.foldl Fields.add {}).endpoint = (fs.foldl Fields.add {}).endpoint := by
  refine congrArg Fields.endpoint (hperm.foldl_eq' (fun f hf f' hf' fields => ?_) _).symm
  by_cases hkey : f.key = f'.key
  · rw [h.unique hf hf' hkey]
  · obtain ⟨key, value⟩ := f
    obtain ⟨key', value'⟩ := f'
    cases key <;> cases key' <;>
      first
      | rfl
      | exact absurd rfl hkey
      | exact (h.not_both hf hf' rfl rfl).elim
      | exact (h.not_both hf' hf rfl rfl).elim

theorem length_intercalate (parts : List (List UInt8)) (hparts : parts ≠ []) :
    ([colon].intercalate parts).length + 1 = (parts.map (·.length + 1)).sum := by
  induction parts with
  | nil => exact absurd rfl hparts
  | cons part parts ih =>
    cases parts with
    | nil => simp
    | cons part' parts =>
      have := ih nofun
      rw [List.intercalate_cons_cons, List.map_cons, List.sum_cons, List.length_append,
        List.length_append]
      simp only [List.length_singleton]
      omega

theorem Named.length_perm {fs fs' : List Field} (h : Named fs) (hperm : fs.Perm fs') :
    (nameOf fs').length = (nameOf fs).length := by
  have hsum := ((hperm.map Field.text).map (·.length + 1)).sum_nat
  rw [← length_intercalate _ (by simpa using h.nonempty),
    ← length_intercalate _ (by simpa using (h.perm hperm).nonempty)] at hsum
  unfold nameOf
  rw [List.length_append, List.length_append]
  omega

/-- **The grammar of device names.** The names that are accepted, what is made of them, and that the
order of their fields does not matter. -/
theorem device_name (name : List UInt8) :
    ((∃ endpoint, parseIfdDeviceName (some name) = .ok endpoint) ↔
      (cString name).length ≤ 1023 ∧ ∃ fields, Named fields ∧ cString name = nameOf fields) ∧
    (∀ endpoint fields, parseIfdDeviceName (some name) = .ok endpoint → Named fields →
      cString name = nameOf fields → Describes fields endpoint) ∧
    ∀ name' fields fields', Named fields → fields.Perm fields' → cString name = nameOf fields →
      cString name' = nameOf fields' → parseIfdDeviceName (some name') =
      parseIfdDeviceName (some name) := by
  refine ⟨?_, ?_, ?_⟩
  · constructor
    · rintro ⟨endpoint, h⟩
      obtain ⟨hlength, fields, hnamed, hname, -⟩ := (parseIfdDeviceName_iff name endpoint).1 h
      exact ⟨hlength, fields, hnamed, hname⟩
    · rintro ⟨hlength, fields, hnamed, hname⟩
      exact ⟨_, (parseIfdDeviceName_iff name _).2 ⟨hlength, fields, hnamed, hname, rfl⟩⟩
  · intro endpoint fields h hnamed hname
    obtain ⟨hlength, -⟩ := (parseIfdDeviceName_iff name endpoint).1 h
    have hparse := (parseIfdDeviceName_iff name _).2 ⟨hlength, fields, hnamed, hname, rfl⟩
    obtain rfl := Except.ok.inj (h.symm.trans hparse)
    exact hnamed.describes
  · intro name' fields fields' hnamed hperm hname hname'
    have hsame : (cString name').length = (cString name).length := by
      rw [hname, hname', hnamed.length_perm hperm]
    by_cases hlength : (cString name).length ≤ kIfdDeviceNameMaxLength
    · rw [(parseIfdDeviceName_iff name _).2 ⟨hlength, fields, hnamed, hname, rfl⟩]
      exact (parseIfdDeviceName_iff name' _).2
        ⟨by omega, fields', hnamed.perm hperm, hname', hnamed.endpoint_perm hperm⟩
    · have hlong : ∀ name, ¬(cString name).length ≤ kIfdDeviceNameMaxLength →
          parseIfdDeviceName (some name) = .error .invalidArgument := fun name h => by
        unfold parseIfdDeviceName
        dsimp only
        rw [scanLength_eq, if_pos (.inr (by omega))]
      rw [hlong name hlength, hlong name' (by omega)]

end Px4.Pcsc
