import Px4.Core
import Px4.Device.Profile
import Px4.Lib.StrictWeak

/-!
# Grouping of the USB devices (`identity.h`, `identity.cpp`)

An observed USB device is a bridge of an enclosure. `group_q3u4_devices` puts the bridges of one
enclosure into a group, by model and base serial, and says which groups are ready;
`select_ready_q3u4_group` and `select_q3u4_group_by_usb_paths` choose one of them. Texts are their
bytes. `std::sort` is a `Lib.StdSort`: the order of elements that do not compare is its own.
-/

namespace Px4.Device

open Lib (StdSort)

def kQ3U4VendorId : UInt16 := 0x0511
def kQ3U4BaseSerialLength : Nat := 14
def kUsbSerialLength : Nat := 15

/-- The product id of a model in `kDeviceProfiles`. -/
def DeviceModel.productId : DeviceModel → UInt16
  | pxQ3u4 => 0x084a
  | pxW3u4 => 0x083f
  | pxMlt5pe => 0x024e
  | dtv02a5tsP => 0x924e
  | pxW3pe4 => 0x023f
  | pxW3pe5 => 0x073f
  | pxQ3pe4 => 0x024a
  | pxQ3pe5 => 0x074a
  | pxMlt8pe3 => 0x0252
  | pxMlt8pe5 => 0x0253
  | dtv02a4tsP => 0x0254
  | pxM1ur => 0x0854
  | pxS1ur => 0x0855
  | dtv03a1tu => 0x0052
  | dtv021t1sU => 0x004b
  | dtv02a1t1sU => 0x084b

/-- The value of the enumerator. -/
def DeviceModel.raw : DeviceModel → Nat
  | pxQ3u4 => 0
  | pxMlt5pe => 1
  | dtv02a5tsP => 2
  | pxW3u4 => 3
  | pxW3pe4 => 4
  | pxW3pe5 => 5
  | pxQ3pe4 => 6
  | pxQ3pe5 => 7
  | pxMlt8pe3 => 8
  | pxMlt8pe5 => 9
  | dtv02a4tsP => 10
  | pxM1ur => 11
  | pxS1ur => 12
  | dtv03a1tu => 13
  | dtv021t1sU => 14
  | dtv02a1t1sU => 15

/-- `device_profile_for_usb_id`. -/
def deviceProfileForUsbId (vendorId productId : UInt16) : Option DeviceProfile :=
  if vendorId ≠ kQ3U4VendorId then none
  else kDeviceProfiles.find? fun profile => profile.model.productId = productId

/-! ## Observations -/

/-- `UsbSpeed`. -/
inductive UsbSpeed
  | unknown | low | full | high | super | superPlus | superPlusX2
  deriving DecidableEq, Repr

/-- `EndpointType`. -/
inductive EndpointType
  | other | bulk
  deriving DecidableEq, Repr

structure UsbEndpointObservation where
  address : UInt8
  type : EndpointType
  maxPacketSize : UInt16
  deriving DecidableEq, Repr

structure UsbInterfaceObservation where
  number : UInt8
  alternateSetting : UInt8
  endpoints : List UsbEndpointObservation
  deriving DecidableEq, Repr

/-- The number of bytes of `port_path`. -/
def kPortPathLength : Nat := 8

structure UsbLocation where
  hasBus : Bool := false
  hasAddress : Bool := false
  bus : UInt8 := 0
  address : UInt8 := 0
  portPath : List UInt8 := List.replicate kPortPathLength 0
  portPath_length : portPath.length = kPortPathLength := by rfl
  portCount : UInt8 := 0
  deriving DecidableEq, Repr

/-- `DeviceObservation`; its topology is the list of the interfaces. -/
structure DeviceObservation where
  vendorId : UInt16
  productId : UInt16
  serial : List UInt8
  speed : UsbSpeed
  location : UsbLocation
  topology : List UsbInterfaceObservation
  deriving DecidableEq, Repr

/-- `ObservationStatus`, without `open_failed`, which no function here gives. -/
inductive ObservationStatus
  | usable | unsupported | invalidSerial | insufficientSpeed | invalidTopology
  deriving DecidableEq, Repr

/-! ## Serials -/

def isDigit (character : UInt8) : Bool := 0x30 ≤ character ∧ character ≤ 0x39

/-- `all_digits`. -/
def allDigits (value : List UInt8) : Bool := value.all isDigit

structure ParsedQ3U4Serial where
  baseSerial : List UInt8
  devId : Nat
  deriving DecidableEq, Repr

/-- `parse_q3u4_serial`. -/
def parseQ3u4Serial (serial : List UInt8) : Result ParsedQ3U4Serial :=
  if serial.length ≠ kUsbSerialLength then .error .invalidArgument
  else if !allDigits serial then .error .invalidArgument
  else if serial.getLast? ≠ some 0x31 ∧ serial.getLast? ≠ some 0x32 then .error .invalidArgument
  else .ok ⟨serial.dropLast, if serial.getLast? = some 0x31 then 1 else 2⟩

/-- `GroupKey`. -/
structure GroupKey where
  baseSerial : List UInt8
  slot : Nat
  model : DeviceModel
  deriving DecidableEq, Repr

/-- `group_key`. -/
def groupKey (observation : DeviceObservation) : Result GroupKey :=
  match deviceProfileForUsbId observation.vendorId observation.productId with
  | none => .error .unsupported
  | some profile =>
    if profile.bridgeCount = 2 then
      match parseQ3u4Serial observation.serial with
      | .error e => .error e
      | .ok parsed => .ok ⟨parsed.baseSerial, parsed.devId - 1, profile.model⟩
    else if observation.serial.length ≠ kUsbSerialLength ∨ !allDigits observation.serial then
      .error .invalidArgument
    else .ok ⟨observation.serial, 0, profile.model⟩

/-- `valid_device_instance`. -/
def validDeviceInstance (value : List UInt8) : Bool :=
  (value.length == kQ3U4BaseSerialLength || value.length == kUsbSerialLength) && allDigits value

/-! ## Checks -/

/-- `q3u4_speed_is_usable`. -/
def q3u4SpeedIsUsable : UsbSpeed → Bool
  | .high | .super | .superPlus | .superPlusX2 => true
  | .unknown | .low | .full => false

/-- `endpoint_matches`: the address is there once, and everywhere it is a bulk endpoint of 512. -/
def endpointMatches (interface : UsbInterfaceObservation) (address : UInt8) : Bool :=
  let found := interface.endpoints.filter fun endpoint => endpoint.address = address
  (found.all fun endpoint => endpoint.type == .bulk && endpoint.maxPacketSize == 512) &&
    found.length == 1

/-- `interface_zero_alt_zero`: the only one. -/
def interfaceZeroAltZero (topology : List UsbInterfaceObservation) :
    Option UsbInterfaceObservation :=
  match topology.filter fun interface => interface.number = 0 ∧ interface.alternateSetting = 0 with
  | [interface] => some interface
  | _ => none

/-- `q3u4_topology_is_usable`. -/
def q3u4TopologyIsUsable (topology : List UsbInterfaceObservation) : Bool :=
  match interfaceZeroAltZero topology with
  | none => false
  | some interface =>
    interface.endpoints.length == 4 && [0x81, 0x02, 0x84, 0x85].all (endpointMatches interface)

/-- `validate_q3u4_observation`. -/
def validateQ3u4Observation (observation : DeviceObservation) : ObservationStatus :=
  if (deviceProfileForUsbId observation.vendorId observation.productId).isNone then .unsupported
  else if !(groupKey observation).isOk then .invalidSerial
  else if !q3u4SpeedIsUsable observation.speed then .insufficientSpeed
  else if !q3u4TopologyIsUsable observation.topology then .invalidTopology
  else .usable

/-! ## Order -/

/-- `operator<` of texts and of arrays of bytes. -/
def bytesLess (left right : List UInt8) : Bool :=
  left.map UInt8.toNat < right.map UInt8.toNat

/-- The bus, the address and the number of ports. -/
def UsbLocation.key (location : UsbLocation) : List Nat :=
  [if location.hasBus then location.bus.toNat else 0,
   if location.hasAddress then location.address.toNat else 0, location.portCount.toNat]

/-- `location_less`. -/
def locationLess (left right : UsbLocation) : Bool :=
  if left.key ≠ right.key then left.key < right.key
  else bytesLess left.portPath right.portPath

/-- `observation_less`, of observations that have a key. -/
def observationLess (left right : DeviceObservation) : Bool :=
  match groupKey left, groupKey right with
  | .ok leftKey, .ok rightKey =>
    if leftKey.baseSerial ≠ rightKey.baseSerial then
      bytesLess leftKey.baseSerial rightKey.baseSerial
    else if leftKey.model ≠ rightKey.model then leftKey.model.raw < rightKey.model.raw
    else if leftKey.slot ≠ rightKey.slot then leftKey.slot < rightKey.slot
    else locationLess left.location right.location
  | _, _ => false

/-! ## Groups -/

/-- `GroupStatus`. -/
inductive GroupStatus
  | ready | incomplete | duplicate | invalidObservation
  deriving DecidableEq, Repr

/-- `Q3U4Group::Candidate`. -/
structure Candidate where
  observationIndex : Nat
  device : Nat
  observation : DeviceObservation
  deriving DecidableEq, Repr

/-- `Q3U4Group`; the arrays have an entry for each of the two slots. -/
structure Q3U4Group where
  baseSerial : List UInt8
  devices : List (Option DeviceObservation) := [none, none]
  candidateIndices : List (Option Nat) := [none, none]
  candidates : List Candidate := []
  status : GroupStatus := .incomplete
  model : DeviceModel
  deriving DecidableEq, Repr

structure RejectedObservation where
  status : ObservationStatus
  observation : DeviceObservation
  deriving DecidableEq, Repr

/-- `GroupingResult`, without `complete`, which stays true. -/
structure GroupingResult where
  groups : List Q3U4Group
  rejected : List RejectedObservation
  deriving DecidableEq, Repr

/-- The candidate of an observation in a slot joins the group. -/
def Q3U4Group.add (group : Q3U4Group) (slot index : Nat) (observation : DeviceObservation) :
    Q3U4Group :=
  let group := { group with
    candidates := group.candidates ++ [Candidate.mk index (slot + 1) observation] }
  let group :=
    if (group.devices.getD slot none).isSome then { group with status := .duplicate }
    else { group with
      devices := group.devices.set slot (some observation)
      candidateIndices := group.candidateIndices.set slot (some index) }
  if validateQ3u4Observation observation ≠ .usable ∧ group.status ≠ .duplicate then
    { group with status := .invalidObservation }
  else group

/-- A new group with its first candidate. -/
def Q3U4Group.new (key : GroupKey) (index : Nat) (observation : DeviceObservation) : Q3U4Group :=
  Q3U4Group.add { baseSerial := key.baseSerial, model := key.model } key.slot index observation

/-- The first group of the key takes the observation, or a new one at the end. -/
def placePaired (key : GroupKey) (index : Nat) (observation : DeviceObservation) :
    List Q3U4Group → List Q3U4Group
  | [] => [.new key index observation]
  | group :: groups =>
    if group.baseSerial = key.baseSerial ∧ group.model = key.model then
      group.add key.slot index observation :: groups
    else group :: placePaired key index observation groups

/-- A round of the grouping loop, for an observation and its index. -/
def place (groups : List Q3U4Group) (entry : DeviceObservation × Nat) :
    Result (List Q3U4Group) :=
  match groupKey entry.1 with
  | .error _ => .error .internal
  | .ok key =>
    if (deviceProfile key.model).bridgeCount = 1 then .ok (groups ++ [.new key entry.2 entry.1])
    else .ok (placePaired key entry.2 entry.1 groups)

/-- The loop over the groups. -/
def Q3U4Group.finish (group : Q3U4Group) : Q3U4Group :=
  if group.status = .duplicate ∨ group.status = .invalidObservation then group
  else
    let complete := (List.range (deviceProfile group.model).bridgeCount).all fun slot =>
      (group.devices.getD slot none).isSome
    { group with status := if complete then .ready else .incomplete }

/-- The order of the groups. -/
def groupLess (left right : Q3U4Group) : Bool :=
  if left.baseSerial ≠ right.baseSerial then bytesLess left.baseSerial right.baseSerial
  else if left.model ≠ right.model then left.model.raw < right.model.raw
  else match left.candidates.head?, right.candidates.head? with
    | some leftFront, some rightFront =>
      locationLess leftFront.observation.location rightFront.observation.location
    | _, _ => false

/-- An observation that is grouped. -/
def isGrouped (observation : DeviceObservation) : Bool :=
  validateQ3u4Observation observation != .unsupported &&
    validateQ3u4Observation observation != .invalidSerial

/-- `group_q3u4_devices`. -/
def groupQ3u4Devices (std : StdSort) (observations : List DeviceObservation) :
    Result GroupingResult :=
  let rejected := (observations.filter fun observation => !isGrouped observation).map
    fun observation => RejectedObservation.mk (validateQ3u4Observation observation) observation
  let sorted := std.sort (fun left right => observationLess left.1 right.1)
    (observations.zipIdx.filter fun entry => isGrouped entry.1)
  match sorted.foldlM place [] with
  | .error e => .error e
  | .ok groups => .ok { groups := std.sort groupLess (groups.map Q3U4Group.finish), rejected }

/-! ## Selection by serial -/

/-- The counters of `select_ready_q3u4_group`. -/
structure ReadyScan where
  readyCount : Nat := 0
  matchingCount : Nat := 0
  matchingReadyCount : Nat := 0
  selected : Nat := 0
  deriving DecidableEq, Repr

/-- A round of the loop of `select_ready_q3u4_group`. -/
def ReadyScan.step (baseSerial : List UInt8) (scan : ReadyScan) (entry : Q3U4Group × Nat) :
    ReadyScan :=
  let group := entry.1
  let scan :=
    if baseSerial ≠ [] ∧ group.baseSerial = baseSerial then
      { scan with
        matchingCount := scan.matchingCount + 1
        matchingReadyCount :=
          if group.status = .ready then scan.matchingReadyCount + 1 else scan.matchingReadyCount }
    else scan
  if group.status ≠ .ready then scan
  else
    let scan := { scan with readyCount := scan.readyCount + 1 }
    if baseSerial = [] ∨ group.baseSerial = baseSerial then { scan with selected := entry.2 }
    else scan

/-- `select_ready_q3u4_group`. -/
def selectReadyQ3u4Group (grouping : GroupingResult) (baseSerial : List UInt8) : Result Nat :=
  if baseSerial ≠ [] ∧ !validDeviceInstance baseSerial then .error .invalidArgument
  else
    let scan := grouping.groups.zipIdx.foldl (ReadyScan.step baseSerial) {}
    if baseSerial ≠ [] then
      if scan.matchingCount = 0 then .error .notFound
      else if scan.matchingCount = 1 ∧ scan.matchingReadyCount = 1 then .ok scan.selected
      else .error .invalidArgument
    else if scan.readyCount = 0 then .error .notFound
    else if scan.readyCount = 1 then .ok scan.selected
    else .error .invalidArgument

/-! ## Selection by USB paths -/

/-- `ParsedUsbPath`: a bus with an address, or with the ports. -/
inductive ParsedUsbPath
  | address (bus address : UInt8)
  | ports (bus : UInt8) (ports : List UInt8)
  deriving DecidableEq, Repr

/-- `std::from_chars` of an `unsigned int`: the number, and what follows its digits. -/
def fromChars (part : List UInt8) : Option (Nat × List UInt8) :=
  let digits := part.takeWhile isDigit
  let number := digits.foldl (fun number digit => 10 * number + (digit.toNat - 0x30)) 0
  if digits = [] ∨ number ≥ 2 ^ 32 then none else some (number, part.dropWhile isDigit)

/-- `parse_byte`. -/
def parseByte (part : List UInt8) : Option UInt8 :=
  match fromChars part with
  | some (number, []) => if number = 0 ∨ number > 255 then none else some (UInt8.ofNat number)
  | _ => none

/-- The loop over the ports: the parts between the dots, at most as many as `ports` holds. -/
def parsePorts (ports : List UInt8) : List (List UInt8) → Option (List UInt8)
  | [] => some ports
  | part :: parts =>
    if ports.length = kPortPathLength then none
    else match parseByte part with
      | none => none
      | some port => parsePorts (ports ++ [port]) parts

/-- `parse_usb_path`. -/
def parseUsbPath (text : List UInt8) : Result ParsedUsbPath :=
  let front := text.takeWhile fun character => character ≠ 0x3a ∧ character ≠ 0x2d
  match text.dropWhile fun character => character ≠ 0x3a ∧ character ≠ 0x2d with
  | [] | [_] => .error .invalidArgument
  | separator :: rest =>
    match parseByte front with
    | none => .error .invalidArgument
    | some bus =>
      if separator = 0x3a then
        match parseByte rest with
        | none => .error .invalidArgument
        | some address => .ok (.address bus address)
      else match parsePorts [] (rest.splitOn 0x2e) with
        | none => .error .invalidArgument
        | some ports => .ok (.ports bus ports)

/-- `path_matches`. -/
def pathMatches (path : ParsedUsbPath) (location : UsbLocation) : Bool :=
  match path with
  | .address bus address =>
    location.hasBus && location.bus == bus && (location.hasAddress && location.address == address)
  | .ports bus ports =>
    location.hasBus && location.bus == bus &&
      (location.portCount.toNat == ports.length && ports.length != 0 &&
        location.portPath.take ports.length == ports)

/-- A candidate with its group and the position of the group. -/
structure Hit where
  groupIndex : Nat
  group : Q3U4Group
  candidate : Candidate
  deriving DecidableEq, Repr

/-- All candidates of all groups. -/
def GroupingResult.hits (grouping : GroupingResult) : List Hit :=
  grouping.groups.zipIdx.flatMap fun entry =>
    entry.1.candidates.map fun candidate => ⟨entry.2, entry.1, candidate⟩

/-- The candidate that a path stands for. -/
def locate (grouping : GroupingResult) (text : List UInt8) : Result Hit :=
  match parseUsbPath text with
  | .error e => .error e
  | .ok path =>
    match grouping.hits.filter fun hit => pathMatches path hit.candidate.observation.location with
    | [] => .error .notFound
    | [hit] => .ok hit
    | _ => .error .invalidArgument

/-- `SelectedQ3U4Group`. -/
structure SelectedQ3U4Group where
  groupIndex : Nat
  candidateIndices : List Nat := [0, 0]
  deriving DecidableEq, Repr

/-- The candidates of a group that is ready, slot by slot. -/
def takeSlots (group : Q3U4Group) (selected : SelectedQ3U4Group) (slot : Nat) :
    Result SelectedQ3U4Group :=
  match group.candidateIndices.getD slot none with
  | none => .error .invalidArgument
  | some index =>
    .ok { selected with candidateIndices := selected.candidateIndices.set slot index }

/-- The candidate of a path takes its slot; `occupied` are the slots taken. -/
def takeHit (bridgeCount : Nat) (state : SelectedQ3U4Group × List Nat) (hit : Hit) :
    Result (SelectedQ3U4Group × List Nat) :=
  let slot := hit.candidate.device - 1
  if slot ≥ bridgeCount ∨ slot ∈ state.2 ∨
      validateQ3u4Observation hit.candidate.observation ≠ .usable then
    .error .invalidArgument
  else
    .ok ({ state.1 with
      candidateIndices := state.1.candidateIndices.set slot hit.candidate.observationIndex },
      slot :: state.2)

/-- The part of `select_q3u4_group_by_usb_paths` after the paths are located. -/
def selectHits (baseSerial : List UInt8) (hits : List Hit) : Result SelectedQ3U4Group :=
  match hits with
  | [] => .error .invalidArgument
  | hit :: others =>
    if others.any fun other => other.groupIndex != hit.groupIndex then .error .invalidArgument
    else if baseSerial ≠ [] ∧ hit.group.baseSerial ≠ baseSerial then .error .invalidArgument
    else
      let bridgeCount := (deviceProfile hit.group.model).bridgeCount
      if others = [] then
        if hit.group.status ≠ .ready then .error .invalidArgument
        else (List.range bridgeCount).foldlM (takeSlots hit.group) { groupIndex := hit.groupIndex }
      else if bridgeCount ≠ hits.length then .error .invalidArgument
      else match hits.foldlM (takeHit bridgeCount) ({ groupIndex := hit.groupIndex }, []) with
        | .error e => .error e
        | .ok state => .ok state.1

/-- `select_q3u4_group_by_usb_paths`. -/
def selectQ3u4GroupByUsbPaths (grouping : GroupingResult) (baseSerial : List UInt8)
    (usbPaths : List (List UInt8)) : Result SelectedQ3U4Group :=
  if baseSerial ≠ [] ∧ !validDeviceInstance baseSerial ∨ usbPaths = [] ∨ usbPaths.length > 2 then
    .error .invalidArgument
  else match usbPaths.mapM (locate grouping) with
    | .error e => .error e
    | .ok hits => selectHits baseSerial hits

end Px4.Device
