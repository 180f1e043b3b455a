import Px4.Core

/-!
# Device names of the PC/SC reader (`pcsc_ifd_adapter.cpp`)

`parse_ifd_device_name` and the validators of its values. A name is given by the bytes before the
terminating NUL of its array; further NULs, which end the name sooner, may be among them.
-/

namespace Px4.Pcsc

/-- `IfdEndpoint`. -/
structure IfdEndpoint where
  runtimeDirectory : List UInt8 := []
  deviceInstance : List UInt8 := []
  groupAccess : Bool := false
  deriving DecidableEq, Repr

/-- A string literal. -/
def text (cs : List Char) : List UInt8 := cs.map Char.toUInt8

/-- `kIfdDeviceNameMaxLength`. -/
def kIfdDeviceNameMaxLength : Nat := 1023

/-- `kDevicePrefix`. -/
def kDevicePrefix : List UInt8 :=
  text ['p', 'x', '4', '-', 'u', 's', 'e', 'r', 'l', 'a', 'n', 'd', ':']

def colon : UInt8 := 0x3a
def equalsSign : UInt8 := 0x3d
def slash : UInt8 := 0x2f

/-! ## Values -/

/-- A character from '0' to '9'. -/
def isDigit (c : UInt8) : Bool := 0x30 ≤ c ∧ c ≤ 0x39

/-- A character that `valid_instance` allows. -/
def isInstanceCharacter (c : UInt8) : Bool :=
  0x30 ≤ c ∧ c ≤ 0x39 ∨ 0x41 ≤ c ∧ c ≤ 0x5a ∨ 0x61 ≤ c ∧ c ≤ 0x7a ∨ c = 0x5f ∨ c = 0x2d ∨ c = 0x2e

/-- A character that `valid_field_value` allows. -/
def isFieldCharacter (c : UInt8) : Bool := ¬(c < 0x20 ∨ c = 0x7f ∨ c = colon)

/-- `valid_serial`. -/
def validSerial (value : List UInt8) : Bool :=
  if value.length ≠ 14 ∧ value.length ≠ 15 then false else value.all isDigit

/-- `valid_instance`. -/
def validInstance (value : List UInt8) : Bool :=
  if value = [] ∨ 80 < value.length ∨ value = text ['.'] ∨ value = text ['.', '.'] ∨
      validSerial value = true then
    false
  else value.all isInstanceCharacter

/-- `valid_field_value`. -/
def validFieldValue (value : List UInt8) : Bool :=
  if value = [] then false else value.all isFieldCharacter

/-! ## Fields -/

/-- The keys, in the order in which they are compared. -/
def runtimeKey : List UInt8 := text ['r', 'u', 'n', 't', 'i', 'm', 'e']
def deviceKey : List UInt8 := text ['d', 'e', 'v', 'i', 'c', 'e']
def instanceKey : List UInt8 := text ['i', 'n', 's', 't', 'a', 'n', 'c', 'e']
def accessKey : List UInt8 := text ['a', 'c', 'c', 'e', 's', 's']

/-- The values of `access`. -/
def userAccess : List UInt8 := text ['u', 's', 'e', 'r']
def groupAccess : List UInt8 := text ['g', 'r', 'o', 'u', 'p']

/-- The endpoint so far and what has been given of it. -/
structure Fields where
  endpoint : IfdEndpoint := {}
  haveRuntime : Bool := false
  haveDevice : Bool := false
  haveInstance : Bool := false
  haveAccess : Bool := false
  deriving DecidableEq, Repr

/-- A field with its key and its value. -/
def takeField (key value : List UInt8) (fields : Fields) : Result Fields :=
  if validFieldValue value = false then .error .invalidArgument
  else if key = runtimeKey then
    if fields.haveRuntime = true ∨ value.head? ≠ some slash then .error .invalidArgument
    else .ok { fields with
      endpoint := { fields.endpoint with runtimeDirectory := value }, haveRuntime := true }
  else if key = deviceKey then
    if fields.haveDevice = true ∨ validSerial value = false then .error .invalidArgument
    else .ok { fields with
      endpoint := { fields.endpoint with deviceInstance := value }, haveDevice := true }
  else if key = instanceKey then
    if fields.haveInstance = true ∨ validInstance value = false then .error .invalidArgument
    else .ok { fields with
      endpoint := { fields.endpoint with deviceInstance := value }, haveInstance := true }
  else if key = accessKey then
    if fields.haveAccess = true ∨ value ≠ userAccess ∧ value ≠ groupAccess then
    .error .invalidArgument
    else .ok { fields with
      endpoint := { fields.endpoint with groupAccess := value = groupAccess }, haveAccess := true }
  else .error .invalidArgument

/-- A field, split at its first `=`. -/
def parseField (field : List UInt8) (fields : Fields) : Result Fields :=
  match field.idxOf? equalsSign with
  | none => .error .invalidArgument
  | some equals =>
    if field = [] ∨ equals = 0 ∨ equals + 1 = field.length then .error .invalidArgument
    else takeField (field.take equals) (field.drop (equals + 1)) fields

/-- The loop over the fields, from an offset on: `rest` is what the input has from there. It takes
less than `fuel` rounds, if the fuel is more than the length of that. -/
def parseFields : Nat → List UInt8 → Fields → Result Fields
  | 0, _, _ => .error .internal
  | fuel + 1, rest, fields =>
    if rest = [] then .ok fields
    else
      let separator := rest.idxOf? colon
      match parseField (rest.take (separator.getD rest.length)) fields with
      | .error e => .error e
      | .ok fields =>
        match separator with
        | none => .ok fields
        | some separator =>
          let rest := rest.drop (separator + 1)
          if rest = [] then .error .invalidArgument else parseFields fuel rest fields

/-- The length of a name, which is read up to one character more than is allowed. -/
def scanLength : Nat → List UInt8 → Nat
  | 0, _ => 0
  | _ + 1, [] => 0
  | bound + 1, c :: name => if c = 0 then 0 else scanLength bound name + 1

/-- `parse_ifd_device_name`. -/
def parseIfdDeviceName : Option (List UInt8) → Result IfdEndpoint
  | none => .error .invalidArgument
  | some name =>
    let length := scanLength (kIfdDeviceNameMaxLength + 1) name
    if length = 0 ∨ kIfdDeviceNameMaxLength < length then .error .invalidArgument
    else
      let input := name.take length
      if input.length ≤ kDevicePrefix.length ∨ input.take kDevicePrefix.length ≠ kDevicePrefix then
        .error .invalidArgument
      else
        match parseFields (input.length + 1) (input.drop kDevicePrefix.length) {} with
        | .error e => .error e
        | .ok fields =>
          if fields.haveDevice = fields.haveInstance then .error .invalidArgument
          else .ok fields.endpoint

end Px4.Pcsc
