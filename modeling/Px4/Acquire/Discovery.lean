import Px4.Acquire.Api

/-!
# Finding the devices (`libusb_transport.cpp`)

`observe_topology`, `read_serial`, `observe_wrapped_handle` and `NativeEnumerator::discover`. A
device is opened to read its serial, and closed again.
-/

namespace Px4.Acquire

open Px4.Device
open Px4.Usb (mapLibusbError)

/-- What the code is compiled for. -/
inductive Platform
  | linux | windows | other
  deriving DecidableEq, Repr

/-- `LIBUSB_ERROR_ACCESS`. -/
def kErrorAccess : Int := -3

/-- `LIBUSB_ERROR_OVERFLOW`. -/
def kErrorOverflow : Int := -8

/-- `map_acquisition_error` of a result other than 0. -/
def mapAcquisitionError (platform : Platform) (error : Int) : Error :=
  if platform = .windows ∧ error = kErrorAccess then .busy else mapLibusbError error

/-- `observe_topology`. -/
def observeTopology (device : Device) : Calls (Result (List UsbInterfaceObservation)) := do
  let (getResult, descriptor) ← ask (.getConfigDescriptor device)
  if getResult ≠ 0 then do
    if descriptor then ask .freeConfigDescriptor
    pure (.error (mapLibusbError getResult))
  else if descriptor = false then pure (.error .internal)
  else do
    let (describeResult, topology) ← ask .describeConfigDescriptor
    ask .freeConfigDescriptor
    pure (if describeResult ≠ 0 then .error (mapLibusbError describeResult) else .ok topology)

/-- The size of the buffer of `read_serial`. -/
def kSerialBufferSize : Nat := 256

/-- `read_serial`: the result other than 0, or the serial. -/
def readSerial (handle : Handle) (index : UInt8) : Calls (Except Int (List UInt8)) := do
  let (result, serial) ← ask (.getSerialDescriptor handle index)
  pure (if result ≠ 0 then .error result
    else if serial.length ≥ kSerialBufferSize then .error kErrorOverflow
    else .ok serial)

/-- `observe_wrapped_handle`. -/
def observeWrappedHandle (handle : Handle) : Calls (Result DeviceObservation) := do
  let (result, device) ← ask (.getDeviceFromHandle handle)
  if result ≠ 0 ∨ device = 0 then
    pure (.error (if result = 0 then .internal else mapLibusbError result))
  else do
    let (result, observation, serialIndex) ← ask (.getDeviceInfo device)
    if result ≠ 0 then pure (.error (mapLibusbError result))
    else if serialIndex = 0 then pure (.error .invalidArgument)
    else do
      match ← readSerial handle serialIndex with
      | .error result => pure (.error (mapLibusbError result))
      | .ok serial => do
        match ← observeTopology device with
        | .error e => pure (.error e)
        | .ok topology => pure (.ok { observation with serial, topology })

/-! ## Candidates -/

/-- `ObservationStatus`, with `open_failed`. -/
inductive CandidateStatus
  | openFailed
  | observed (status : ObservationStatus)
  deriving DecidableEq, Repr

/-- `observation_status_error`; `usable` is no error. -/
def observationStatusError : CandidateStatus → Option Error
  | .observed .usable => none
  | .observed .unsupported | .observed .insufficientSpeed => some .unsupported
  | .observed .invalidSerial | .observed .invalidTopology => some .invalidArgument
  | .openFailed => some .usbIo

/-- `DeviceCandidate`; there is no `discoveryError` for `OK`. -/
structure DeviceCandidate where
  device : Device
  observation : DeviceObservation
  status : CandidateStatus
  discoveryError : Option Error := none
  deriving DecidableEq, Repr

/-- A device that may be opened: a round of the loop of `discover` from `open` on. -/
def discoverSerial (platform : Platform) (device : Device) (observation : DeviceObservation)
    (serialIndex : UInt8) : Calls DeviceCandidate := do
  let (openResult, handle) ← openDevice device
  let error := if openResult = 0 then .internal else mapAcquisitionError platform openResult
  let failed : DeviceCandidate :=
    { device, observation, status := .openFailed, discoveryError := some error }
  match handle with
  | none => pure failed
  | some handle =>
    if openResult ≠ 0 then do
      letGo (some handle) false
      pure failed
    else do
      let serial ← readSerial handle serialIndex
      letGo (some handle) false
      match serial with
      | .error result => do
        let discoveryError := some (mapLibusbError result)
        pure { device, observation, status := .observed .invalidSerial, discoveryError }
      | .ok serial => do
        let observation := { observation with serial }
        pure { device, observation, status := .observed (validateQ3u4Observation observation) }

/-- A round of the loop of `discover`. -/
def discoverDevice (platform : Platform) (index : Nat) : Calls (Option DeviceCandidate) := do
  let device ← ask (.listDevice index)
  let (infoResult, observation, serialIndex) ← ask (.getDeviceInfo device)
  if infoResult ≠ 0 then pure none
  else if deviceProfileForUsbId observation.vendorId observation.productId = none then pure none
  else if serialIndex = 0 then do
    let discoveryError := some .invalidArgument
    pure (some { device, observation, status := .observed .invalidSerial, discoveryError })
  else do
    match ← observeTopology device with
    | .error e => do
      let discoveryError := some e
      pure (some { device, observation, status := .openFailed, discoveryError })
    | .ok topology => do
      let candidate ← discoverSerial platform device { observation with topology } serialIndex
      pure (some candidate)

/-- The loop of `discover` over positions of the list. -/
def discoverAll (platform : Platform) : List Nat → Calls (List DeviceCandidate)
  | [] => pure []
  | index :: indices => do
    let candidate ← discoverDevice platform index
    let candidates ← discoverAll platform indices
    pure (candidate.toList ++ candidates)

/-- `DeviceDiscovery`, without `complete_`, which acquisition does not read; `list` says that there
is one. -/
structure DeviceDiscovery where
  list : Bool
  candidates : List DeviceCandidate

/-- `NativeEnumerator::discover`. -/
def discover (platform : Platform) : Calls DeviceDiscovery := do
  let (listResult, list, count) ← ask .getDeviceList
  if listResult ≠ 0 then throw (mapLibusbError listResult)
  else do
    let candidates ← discoverAll platform (List.range count)
    pure { list, candidates }

/-- `~DeviceDiscovery`. -/
def DeviceDiscovery.destroy (discovery : DeviceDiscovery) : Calls Unit :=
  if discovery.list then ask .freeDeviceList else pure ()

end Px4.Acquire
