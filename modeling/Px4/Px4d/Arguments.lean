import Px4.Device.Grouping
import Px4.Lib.Walk

/-!
# The arguments of the daemon (`px4d_args.cpp`)

`parse_px4d_arguments`, which scans the argument vector twice: for `--help` and `--version`, and for
the rest. An argument is given by its bytes, and a null entry is `none`. Of the file descriptors and
of the USB paths those that are in use are kept. The parser of device selectors and
`canonicalize_instance` are not part of the repository; what they return is arbitrary.
-/

namespace Px4.Px4d

open Lib (Advance Walk walk)

/-- An argument. -/
abbrev Token := List UInt8

/-- A string literal. -/
def literal (cs : List Char) : Token := cs.map Char.toUInt8

/-! ## Options -/

def optionHelp : Token := literal ['-', '-', 'h', 'e', 'l', 'p']
def optionVersion : Token := literal ['-', '-', 'v', 'e', 'r', 's', 'i', 'o', 'n']
def optionVerbose : Token := literal ['-', '-', 'v', 'e', 'r', 'b', 'o', 's', 'e']
def optionListJson : Token := literal ['-', '-', 'l', 'i', 's', 't', '-', 'j', 's', 'o', 'n']
def optionModels : Token := literal ['-', '-', 'm', 'o', 'd', 'e', 'l', 's']
def optionGroup : Token := literal ['-', '-', 'g', 'r', 'o', 'u', 'p']
def optionAllowLnbPower : Token :=
  literal ['-', '-', 'a', 'l', 'l', 'o', 'w', '-', 'l', 'n', 'b', '-', 'p', 'o', 'w', 'e', 'r']
def optionExitOnStdinEof : Token :=
  literal ['-', '-', 'e', 'x', 'i', 't', '-', 'o', 'n', '-', 's', 't', 'd', 'i',
    'n', '-', 'e', 'o', 'f']
def optionDevice : Token := literal ['-', '-', 'd', 'e', 'v', 'i', 'c', 'e']
def optionInstance : Token := literal ['-', '-', 'i', 'n', 's', 't', 'a', 'n', 'c', 'e']
def optionFirmware : Token := literal ['-', '-', 'f', 'i', 'r', 'm', 'w', 'a', 'r', 'e']
def optionRuntimeDir : Token :=
  literal ['-', '-', 'r', 'u', 'n', 't', 'i', 'm', 'e', '-', 'd', 'i', 'r']
def optionFd : Token := literal ['-', '-', 'f', 'd']

/-- The short options. -/
def shortHelp : Token := literal ['-', 'h']
def shortVerbose : Token := literal ['-', 'v']

/-- `rfind("-", 0U) == 0U`. -/
def hasDash (value : Token) : Bool := (literal ['-']).isPrefixOf value

/-- `rfind("--", 0U) == 0U`. -/
def hasDashes (value : Token) : Bool := (literal ['-', '-']).isPrefixOf value

/-! ## Values -/

/-- The bytes of a number in decimal, so far. -/
def fromChars (parsed : Nat) (value : Token) : Nat :=
  value.foldl (fun parsed character => 10 * parsed + (character.toNat - 0x30)) parsed

/-- `parse_fd`. -/
def parseFd (value : Token) : Option Nat :=
  if value = [] then none
  else if Device.allDigits value = false ∨ 2 ^ 64 ≤ fromChars 0 value ∨
    2 ^ 31 - 1 < fromChars 0 value then none
  else some (fromChars 0 value)

/-- `take_value`: the argument after an option, if there is one that can be a value. -/
def takeValue (next : Option (Option Token)) : Option Token :=
  match next with
  | some (some value) => if value = [] ∨ hasDashes value = true then none else some value
  | _ => none

/-! ## Results -/

/-- `Px4dArguments`. -/
structure Px4dArguments where
  valid : Bool := false
  help : Bool := false
  version : Bool := false
  listJson : Bool := false
  models : Bool := false
  group : Bool := false
  verbose : Bool := false
  allowLnbPower : Bool := false
  exitOnStdinEof : Bool := false
  device : Token := []
  deviceInstance : Token := []
  firmware : Token := []
  runtimeDirectory : Token := []
  fileDescriptors : List Nat := []
  usbSelector : Bool := false
  usbPaths : List Token := []
  error : String := ""
  deriving DecidableEq, Repr

/-- `invalid`. -/
def invalid (message : String) : Px4dArguments := { error := message }

/-- `DeviceSelector`. -/
inductive DeviceSelector
  | serial (serial : Token)
  | topology (paths : List Token)
  deriving DecidableEq, Repr

/-- The functions of `dtv::userland::identity` that are called. -/
structure Identity where
  parseDeviceSelector : Token → Option DeviceSelector
  canonicalizeInstance : Token → Option Token

/-! ## The first scan -/

/-- `request_help` and `request_version`. -/
structure Requests where
  help : Bool := false
  version : Bool := false
  deriving DecidableEq, Repr

/-- An option is one of those that the first scan looks for. -/
def Requests.note (requests : Requests) (option : Token) : Requests :=
  if option = optionHelp ∨ option = shortHelp then { requests with help := true }
  else if option = optionVersion then { requests with version := true }
  else requests

/-- The first scan takes an argument as the value of an option. -/
def metadataTakes (option value : Token) : Bool :=
  if (option = optionFirmware ∨ option = optionRuntimeDir) ∧ hasDashes value = false then true
  else if (option = optionDevice ∨ option = optionInstance) ∧ hasDash value = false then true
  else option = optionFd ∧ value ≠ shortHelp ∧ value ≠ optionHelp ∧ value ≠ optionVersion

/-- The body of the first loop. -/
def metadataRound (requests : Requests) (argument : Option Token) (next : Option (Option Token)) :
    Advance Requests Empty :=
  match argument with
  | none => .next requests
  | some option =>
    match next with
    | some (some value) =>
      if metadataTakes option value = true then .pass (requests.note option)
        else .next (requests.note option)
    | _ => .next (requests.note option)

/-! ## The second scan -/

/-- The variables of the second loop. -/
structure Parsing where
  result : Px4dArguments := {}
  haveDevice : Bool := false
  haveFirmware : Bool := false
  haveRuntime : Bool := false
  haveInstance : Bool := false
  haveAllowLnbPower : Bool := false
  deriving DecidableEq, Repr

/-- A file descriptor. -/
def takeFd (s : Parsing) (value : Token) : Advance Parsing Px4dArguments :=
  if 2 ≤ s.result.fileDescriptors.length then .stop
    (invalid "at most two --fd values are supported")
  else
    match parseFd value with
    | none => .stop (invalid "--fd is invalid")
    | some fd =>
      if fd ∈ s.result.fileDescriptors then .stop (invalid "--fd values must be distinct")
      else .pass { s with result :=
        { s.result with fileDescriptors := s.result.fileDescriptors ++ [fd] } }

/-- An option with its value. -/
def takeOption (s : Parsing) (option value : Token) : Advance Parsing Px4dArguments :=
  if option = optionDevice then
    if s.haveDevice = true then .stop (invalid "duplicate --device")
    else .pass { s with haveDevice := true, result := { s.result with device := value } }
  else if option = optionInstance then
    if s.haveInstance = true then .stop (invalid "duplicate --instance")
    else .pass { s with haveInstance := true, result := { s.result with deviceInstance := value } }
  else if option = optionFirmware then
    if s.haveFirmware = true then .stop (invalid "duplicate --firmware")
    else .pass { s with haveFirmware := true, result := { s.result with firmware := value } }
  else if option = optionRuntimeDir then
    if s.haveRuntime = true then .stop (invalid "duplicate --runtime-dir")
    else .pass { s with haveRuntime := true, result := { s.result with runtimeDirectory := value } }
  else takeFd s value

/-- An option that stands for another one. -/
def longOption (option : Token) : Token :=
  if option = shortHelp then optionHelp else if option = shortVerbose then optionVerbose else option

/-- The body of the second loop, of a vector with `argc` entries. `--exit-on-stdin-eof` is known on
Windows. -/
def optionRound (windows : Bool) (argc : Nat) (s : Parsing) (argument : Option Token)
    (next : Option (Option Token)) :
    Advance Parsing Px4dArguments :=
  match argument with
  | none => .stop (invalid "null argument")
  | some argument =>
    let option := longOption argument
    if option = optionHelp ∨ option = optionVersion then .stop (invalid "metadata scan failed")
    else if option = optionListJson then
      if argc ≠ 2 then .stop (invalid "--list-json cannot be combined")
      else .stop { s.result with valid := true, listJson := true }
    else if option = optionModels then
      if argc ≠ 2 then .stop (invalid "--models cannot be combined")
      else .stop { s.result with valid := true, models := true }
    else if option = optionGroup then
      if s.result.group = true then .stop (invalid "duplicate --group")
      else .next { s with result := { s.result with group := true } }
    else if option = optionVerbose then .next { s with result := { s.result with verbose := true } }
    else if option = optionAllowLnbPower then
      if s.haveAllowLnbPower = true then .stop (invalid "duplicate --allow-lnb-power")
      else .next { s with haveAllowLnbPower := true, result :=
        { s.result with allowLnbPower := true } }
    else if windows = true ∧ option = optionExitOnStdinEof then
      if s.result.exitOnStdinEof = true then .stop (invalid "duplicate --exit-on-stdin-eof")
      else .next { s with result := { s.result with exitOnStdinEof := true } }
    else if option ≠ optionDevice ∧ option ≠ optionFirmware ∧ option ≠ optionRuntimeDir ∧
      option ≠ optionFd ∧
        option ≠ optionInstance then
      .stop (invalid "unknown argument")
    else
      match takeValue next with
      | none => .stop (invalid "option requires a value")
      | some value => takeOption s option value

/-! ## The parser -/

/-- What `--device` selects. -/
def selectDevice (identity : Identity) (s : Parsing) : Except Px4dArguments Px4dArguments :=
  if s.haveDevice = false then .ok s.result
  else
    match identity.parseDeviceSelector s.result.device with
    | none => .error (invalid ("--device requires serial: plus a 14- or 15-digit PX4 serial, " ++
        "or usb:BUS-PORT[,BUS-PORT] with one or two current paths"))
    | some (.serial serial) =>
      if Device.validDeviceInstance serial = false then
        .error (invalid "PX4 serial selector must contain a 14- or 15-digit number")
      else .ok s.result
    | some (.topology paths) =>
      if 2 < paths.length then .error (invalid "PX4 USB selector supports at most two paths")
      else .ok { s.result with usbSelector := true, usbPaths := s.result.usbPaths ++ paths }

/-- The checks after the second loop. -/
def finish (identity : Identity) (s : Parsing) : Px4dArguments :=
  if s.result.fileDescriptors = [] ∧ s.haveDevice = false then
    invalid "native mode requires --device"
  else
    match selectDevice identity s with
    | .error result => result
    | .ok result =>
      if s.haveInstance = true ∧ identity.canonicalizeInstance result.deviceInstance = none then
        invalid "--instance must be a 1-64 ASCII connection token"
      else if result.usbSelector = true ∧ result.fileDescriptors ≠ [] then
        invalid "USB topology selector cannot be used with --fd"
      else if result.usbSelector = true ∧ s.haveInstance = false then
        invalid "USB topology selector requires --instance"
      else if s.haveFirmware = false ∨ result.firmware = [] then invalid "--firmware is required"
      else if s.haveRuntime = true ∧ result.runtimeDirectory = [] then
        invalid "--runtime-dir must not be empty"
      else if result.group = true ∧ s.haveRuntime = false then
        invalid "--group requires --runtime-dir"
      else { result with valid := true }

/-- The first scan. -/
def scanMetadata (arguments : List (Option Token)) : Walk Requests Empty :=
  walk metadataRound arguments {}

/-- The second scan. -/
def scanOptions (windows : Bool) (arguments : List (Option Token)) : Walk Parsing Px4dArguments :=
  walk (optionRound windows (arguments.length + 1)) arguments {}

/-- What the first scan has been asked for. -/
def requested (arguments : List (Option Token)) : Requests :=
  match (scanMetadata arguments).outcome with
  | .ok requests => requests

/-- `parse_px4d_arguments`. -/
def parsePx4dArguments (windows : Bool) (identity : Identity)
    (argv : Option (List (Option Token))) : Px4dArguments :=
  match argv with
  | some (some _ :: arguments) =>
    let requests := requested arguments
    if requests.help = true ∨ requests.version = true then
      { valid := true, help := requests.help, version := !requests.help && requests.version }
    else
      match (scanOptions windows arguments).outcome with
      | .error result => result
      | .ok s => finish identity s
  | _ => invalid "invalid argument vector"

end Px4.Px4d
