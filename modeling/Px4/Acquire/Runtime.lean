import Px4.Acquire.Discovery
import Px4.Lib.Hoare

/-!
# Acquiring the devices of a runtime (`libusb_transport.cpp`)

`Q3U4Runtime::Impl::acquire_native` and `acquire_fds`. The local variables that own something are
part of the state, and their destructors run when a function returns, last declared first.
-/

namespace Px4.Acquire

open Lib (Program StdSort)
open Px4.Device
open Px4.Usb (mapLibusbError)

/-- `LibusbTransport`, which has not streamed. -/
structure LibusbTransport where
  handle : Option Handle
  retainedFd : Option Fd
  claimed : Bool := true
  deriving DecidableEq, Repr

/-- `~LibusbTransport`, if there is a transport: the handle, and then the duplicate. -/
def destroyTransport : Option LibusbTransport → Calls Unit
  | none => pure ()
  | some transport => do
    letGo transport.handle transport.claimed
    closeRetained transport.retainedFd

/-- `Q3U4Runtime::Impl`; `syscalls` says whether there are any. -/
structure Impl where
  transports : List (Option LibusbTransport) := [none, none]
  locations : List UsbLocation := [{}, {}]
  baseSerial : List UInt8 := []
  model : DeviceModel := .pxQ3u4
  syscalls : Bool := true
  deriving DecidableEq, Repr

theorem noPath_length :
    (List.replicate kPortPathLength (0 : UInt8)).length = kPortPathLength :=
  List.length_replicate

/-- `DeviceObservation` before anything is observed. -/
def noObservation : DeviceObservation :=
  ⟨0, 0, [], .unknown,
    { portPath := List.replicate kPortPathLength 0, portPath_length := noPath_length }, []⟩

/-- `Pending` of `acquire_fds`; that of `acquire_native` has only the handle and `claimed`. -/
structure Pending where
  retained : Option Fd := none
  handle : Option Handle := none
  observation : DeviceObservation := noObservation
  claimed : Bool := false
  deriving DecidableEq, Repr

/-- The calls, the runtime, and the local variables `pending` and `transports`. -/
structure World where
  usb : Usb
  impl : Impl
  pending : List Pending := []
  transports : List (Option LibusbTransport) := [none, none]

/-- A part of `acquire_native` or `acquire_fds`. -/
abbrev Acquiring := Program World Error

def call {α : Type} (x : Calls α) : Acquiring α :=
  Program.of fun w => ((x.exec w.usb).1, { w with usb := (x.exec w.usb).2 })

def getPending (index : Nat) : Acquiring Pending := do
  pure ((← get).pending.getD index {})

def setPending (index : Nat) (member : Pending) : Acquiring Unit :=
  modify fun w => { w with pending := w.pending.set index member }

/-! ## Cleaning up -/

/-- A round of the loop of `cleanup`. -/
def closePending (index : Nat) : Acquiring Unit := do
  let member ← getPending index
  call (letGo member.handle member.claimed)
  setPending index
    { member with handle := none, claimed := member.claimed && member.handle.isNone }

/-- The loop of `cleanup`, from the end. -/
def cleanupFrom : Nat → Acquiring Unit
  | 0 => pure ()
  | index + 1 => do
    closePending index
    cleanupFrom index

/-- `cleanup`. -/
def cleanup : Acquiring Unit := do
  let w ← get
  cleanupFrom w.pending.length

/-- `cleanup` before a failure is returned. -/
def fail {α : Type} (error : Error) : Acquiring α := do
  cleanup
  throw error

/-- `reset` of one of the local transports. -/
def resetTransport (slot : Nat) (transport : Option LibusbTransport) : Acquiring Unit := do
  let w ← get
  set { w with transports := w.transports.set slot transport }
  call (destroyTransport (w.transports.getD slot none))

/-- `~RetainedFd` of a member. -/
def destroyPending (index : Nat) : Acquiring Unit := do
  let member ← getPending index
  call (closeRetained member.retained)
  setPending index { member with retained := none }

/-- The destructors of `transports` and of `pending`. -/
def leaveScope : Acquiring Unit := do
  resetTransport 1 none
  resetTransport 0 none
  let w ← get
  (List.range w.pending.length).forM destroyPending
  modify fun w => { w with pending := [] }

/-! ## Claiming and handing over -/

/-- A round of the loop over `claim_interface`. -/
def claimPending (mapError : Int → Error) (index : Nat) : Acquiring Unit := do
  let member ← getPending index
  let result ← call (ask (.claimInterface member.handle))
  if result ≠ 0 then fail (mapError result)
  else setPending index { member with claimed := true }

/-- A round of the loop that makes the transports, for a member and its slot. -/
def handOver (entry : Nat × Nat) : Acquiring Unit := do
  let member ← getPending entry.1
  let made ← call (ask .newTransport)
  resetTransport entry.2
    (if made then some { handle := member.handle, retainedFd := member.retained } else none)
  if made = false then fail .internal
  else setPending entry.1 { member with handle := none, claimed := false, retained := none }

/-- The runtime takes a transport over. -/
def moveTransport (slot : Nat) : Acquiring Unit := do
  let w ← get
  set { w with
    transports := w.transports.set slot none
    impl := { w.impl with
      transports := w.impl.transports.set slot (w.transports.getD slot none) } }
  call (destroyTransport (w.impl.transports.getD slot none))

/-- The end of both functions. -/
def adopt (group : Q3U4Group) (locations : List UsbLocation) : Acquiring Unit := do
  modify fun w =>
    { w with impl := { w.impl with baseSerial := group.baseSerial, model := group.model } }
  moveTransport 0
  moveTransport 1
  modify fun w => { w with impl := { w.impl with
    locations := locations ++ w.impl.locations.drop locations.length } }
  cleanup

/-! ## `acquire_native` -/

/-- The group that is selected, and with paths also the candidates of its slots. -/
def selectGroup (grouping : GroupingResult) (baseSerial : List UInt8) :
    Option (List (List UInt8)) → Result (Nat × Option (List Nat))
  | none => do
    let index ← selectReadyQ3u4Group grouping baseSerial
    pure (index, none)
  | some usbPaths => do
    let selected ← selectQ3u4GroupByUsbPaths grouping baseSerial usbPaths
    pure (selected.groupIndex, some selected.candidateIndices)

/-- An operational error of the discovery. -/
def DeviceCandidate.operationalError (candidate : DeviceCandidate) : Option Error :=
  if candidate.status = .openFailed ∨ candidate.status = .observed .invalidSerial then
    candidate.discoveryError.filter fun error => error ≠ .invalidArgument
  else none

/-- The error of `acquire_native` if nothing can be selected. -/
def selectionError (candidates : List DeviceCandidate) (grouping : GroupingResult)
    (baseSerial : List UInt8) (usbPaths : Option (List (List UInt8))) (error : Error) : Error :=
  let matching := grouping.groups.filter fun group => group.baseSerial = baseSerial
  if usbPaths.isSome then error
  else if baseSerial ≠ [] ∧
      (matching.length > 1 ∨ matching.any fun group => group.status = .duplicate) then
    .invalidArgument
  else (candidates.findSome? DeviceCandidate.operationalError).getD error

/-- The candidates of the bridges of a group. -/
def bridgeCandidates (candidates : List DeviceCandidate) (group : Q3U4Group)
    (selected : Option (List Nat)) : Result (List DeviceCandidate) :=
  (List.range (deviceProfile group.model).bridgeCount).mapM fun slot =>
    let index := match selected with
      | none => group.candidateIndices.getD slot none
      | some indices => indices[slot]?
    match index.bind fun index => candidates[index]? with
    | none => .error .internal
    | some candidate => .ok candidate

def checkUsable (candidate : DeviceCandidate) : Result Unit :=
  match observationStatusError candidate.status with
  | none => .ok ()
  | some error => .error (candidate.discoveryError.getD error)

/-- The part of `acquire_native` between the discovery and the first `open`. -/
def chooseCandidates (std : StdSort) (candidates : List DeviceCandidate) (baseSerial : List UInt8)
    (usbPaths : Option (List (List UInt8))) : Result (Q3U4Group × List DeviceCandidate) := do
  let grouping ← groupQ3u4Devices std (candidates.map DeviceCandidate.observation)
  match selectGroup grouping baseSerial usbPaths with
  | .error error => .error (selectionError candidates grouping baseSerial usbPaths error)
  | .ok (groupIndex, selected) =>
    match grouping.groups[groupIndex]? with
    | none => .error .internal
    | some group => do
      let chosen ← bridgeCandidates candidates group selected
      chosen.forM checkUsable
      pure (group, chosen)

/-- A round of the loop over `open`, for a candidate and its slot. -/
def openPending (platform : Platform) (entry : DeviceCandidate × Nat) : Acquiring Unit := do
  let (result, handle) ← call (openDevice entry.1.device)
  let member ← getPending entry.2
  setPending entry.2 { member with handle }
  if result ≠ 0 ∨ handle = none then
    fail (if result = 0 then .internal else mapAcquisitionError platform result)
  else pure ()

/-- `acquire_native` from the declaration of `pending` on. -/
def acquireCandidates (platform : Platform) (group : Q3U4Group) (chosen : List DeviceCandidate) :
    Acquiring Unit := do
  modify fun w => { w with pending := [{}, {}] }
  chosen.zipIdx.forM (openPending platform)
  (List.range chosen.length).forM (claimPending (mapAcquisitionError platform))
  (List.range chosen.length).zipIdx.forM handOver
  adopt group (chosen.map fun candidate => candidate.observation.location)

/-- `acquire_native` after the discovery. -/
def acquireDiscovered (platform : Platform) (std : StdSort) (discovery : DeviceDiscovery)
    (baseSerial : List UInt8) (usbPaths : Option (List (List UInt8))) : Acquiring Unit :=
  match chooseCandidates std discovery.candidates baseSerial usbPaths with
  | .error error => throw error
  | .ok (group, chosen) => (acquireCandidates platform group chosen).leaving leaveScope

/-- `acquire_native`. -/
def acquireNative (platform : Platform) (std : StdSort) (baseSerial : List UInt8)
    (usbPaths : Option (List (List UInt8))) : Acquiring Unit :=
  if baseSerial ≠ [] ∧ !validDeviceInstance baseSerial then throw .invalidArgument
  else do
    let discovery ← call (discover platform)
    (acquireDiscovered platform std discovery baseSerial usbPaths).leaving (call discovery.destroy)

/-! ## `acquire_fds` -/

/-- The validation of the descriptors. -/
def validateFds : List Int → Acquiring Unit
  | [] => pure ()
  | fd :: fds =>
    if fd < 0 then throw .invalidArgument
    else do
      let valid ← call (ask (.valid fd))
      if valid = false ∨ fd ∈ fds then throw .invalidArgument
      else validateFds fds

/-- A round of the first loop after that, for a descriptor and its index. -/
def wrapPending (entry : Int × Nat) : Acquiring Unit := do
  match ← call (duplicate entry.1) with
  | none => fail .usbIo
  | some fd => do
    let member ← getPending entry.2
    call (closeRetained member.retained)
    setPending entry.2 { member with retained := some fd }
    let (result, handle) ← call (wrapSysDevice fd)
    let member ← getPending entry.2
    setPending entry.2 { member with handle }
    match handle with
    | none => fail (if result = 0 then .internal else mapLibusbError result)
    | some handle =>
      if result ≠ 0 then fail (mapLibusbError result)
      else do
        match ← call (observeWrappedHandle handle) with
        | .error error => fail error
        | .ok observation =>
          match observationStatusError (.observed (validateQ3u4Observation observation)) with
          | some error => fail error
          | none => do
            let member ← getPending entry.2
            setPending entry.2 { member with observation }

/-- `selected_indices`. -/
def selectedIndices (group : Q3U4Group) (size : Nat) : Result (List Nat) :=
  (List.range (deviceProfile group.model).bridgeCount).mapM fun slot =>
    match group.candidateIndices.getD slot none with
    | none => .error .internal
    | some index => if index ≥ size then .error .internal else .ok index

/-- The members that are selected, with their group. -/
def chooseMembers (std : StdSort) (observations : List DeviceObservation)
    (baseSerial : List UInt8) : Result (Q3U4Group × List Nat) := do
  let grouping ← groupQ3u4Devices std observations
  let index ← selectReadyQ3u4Group grouping baseSerial
  match grouping.groups[index]? with
  | none => .error .internal
  | some group => do
    let indices ← selectedIndices group observations.length
    pure (group, indices)

/-- `acquire_fds` from the declaration of `pending` on. -/
def acquireWrapped (std : StdSort) (fds : List Int) (baseSerial : List UInt8) :
    Acquiring Unit := do
  modify fun w => { w with pending := List.replicate fds.length {} }
  fds.zipIdx.forM wrapPending
  let w ← get
  match chooseMembers std (w.pending.map Pending.observation) baseSerial with
  | .error error => fail error
  | .ok (group, indices) => do
    indices.forM (claimPending mapLibusbError)
    indices.zipIdx.forM handOver
    let w ← get
    adopt group (indices.map fun index => (w.pending.getD index {}).observation.location)

/-- `acquire_fds`. -/
def acquireFds (platform : Platform) (std : StdSort) (fds : List Int) (baseSerial : List UInt8) :
    Acquiring Unit :=
  if platform ≠ .linux then throw .unsupported
  else do
    let w ← get
    if fds = [] ∨ w.impl.syscalls = false then throw .invalidArgument
    else do
      validateFds fds
      (acquireWrapped std fds baseSerial).leaving leaveScope

/-! ## Both -/

/-- What `create` calls. -/
inductive Acquisition
  | native (baseSerial : List UInt8) (usbPaths : Option (List (List UInt8)))
  | fds (fds : List Int) (baseSerial : List UInt8)
  deriving DecidableEq, Repr

def acquire (platform : Platform) (std : StdSort) : Acquisition → Acquiring Unit
  | .native baseSerial usbPaths => acquireNative platform std baseSerial usbPaths
  | .fds fds baseSerial => acquireFds platform std fds baseSerial

end Px4.Acquire
