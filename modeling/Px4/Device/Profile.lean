import Mathlib.Data.List.Basic

/-!
# Device models (`identity.h`, `identity.cpp`, `mlt5pe_frontend.h`, `px4d.cpp`)

The supported models with their profiles, the receiver table of the MLT family, and which enclosure
`px4d` serves for a model.
-/

namespace Px4.Device

/-- `DeviceModel`. -/
inductive DeviceModel
  | pxQ3u4 | pxMlt5pe | dtv02a5tsP | pxW3u4 | pxW3pe4 | pxW3pe5 | pxQ3pe4 | pxQ3pe5 | pxMlt8pe3
  | pxMlt8pe5 | dtv02a4tsP | pxM1ur | pxS1ur | dtv03a1tu | dtv021t1sU | dtv02a1t1sU
  deriving DecidableEq, Repr

/-- `DeviceProfile`, without the product id and the name. -/
structure DeviceProfile where
  model : DeviceModel
  bridgeCount : Nat
  receiverCount : Nat
  dualSystem : Bool
  supportsLnb15v : Bool
  deriving DecidableEq, Repr

/-- `kDeviceProfiles`. -/
def kDeviceProfiles : List DeviceProfile :=
  [⟨.pxQ3u4, 2, 8, false, true⟩,
   ⟨.pxW3u4, 1, 4, false, true⟩,
   ⟨.pxMlt5pe, 1, 5, true, true⟩,
   ⟨.dtv02a5tsP, 1, 5, true, true⟩,
   ⟨.pxW3pe4, 1, 4, false, true⟩,
   ⟨.pxW3pe5, 1, 4, false, true⟩,
   ⟨.pxQ3pe4, 2, 8, false, true⟩,
   ⟨.pxQ3pe5, 2, 8, false, true⟩,
   ⟨.pxMlt8pe3, 1, 3, true, true⟩,
   ⟨.pxMlt8pe5, 1, 5, true, true⟩,
   ⟨.dtv02a4tsP, 1, 4, true, true⟩,
   ⟨.pxM1ur, 1, 1, true, false⟩,
   ⟨.pxS1ur, 1, 1, false, false⟩,
   ⟨.dtv03a1tu, 1, 1, false, false⟩,
   ⟨.dtv021t1sU, 1, 1, true, false⟩,
   ⟨.dtv02a1t1sU, 1, 1, true, false⟩]

/-- `device_profile`; a model without an entry gets the first one. -/
def deviceProfile (model : DeviceModel) : DeviceProfile :=
  (kDeviceProfiles.find? fun profile => profile.model = model).getD ⟨.pxQ3u4, 2, 8, false, true⟩

/-! ## The MLT family -/

/-- `kMlt5PeReceiverCount`. -/
def kMlt5PeReceiverCount : Nat := 5

/-- `MltReceiverInput`. -/
structure MltReceiverInput where
  i2cAddress : UInt8
  i2cBus : UInt8
  portNumber : UInt8
  deriving DecidableEq, Repr

/-- `MltModelLayout`; `receivers` has `kMlt5PeReceiverCount` entries. -/
structure MltModelLayout where
  receiverCount : Nat
  receivers : List MltReceiverInput
  deriving DecidableEq, Repr

/-- The entry of a receiver that a board does not have. -/
def unusedInput : MltReceiverInput := ⟨0, 1, 0⟩

/-- `mlt_model_layout`. -/
def mltModelLayout : DeviceModel → MltModelLayout
  | .pxMlt8pe3 => ⟨3, [⟨0x65, 3, 0⟩, ⟨0x6c, 3, 3⟩, ⟨0x64, 3, 4⟩, unusedInput, unusedInput]⟩
  | .pxMlt8pe5 =>
    ⟨5, [⟨0x65, 1, 0⟩, ⟨0x64, 1, 1⟩, ⟨0x6c, 1, 2⟩, ⟨0x6c, 3, 3⟩, ⟨0x64, 3, 4⟩]⟩
  | .dtv02a4tsP => ⟨4, [⟨0x65, 3, 0⟩, ⟨0x6c, 1, 1⟩, ⟨0x64, 1, 2⟩, ⟨0x64, 3, 4⟩, unusedInput]⟩
  | _ => ⟨5, [⟨0x65, 3, 0⟩, ⟨0x6c, 1, 1⟩, ⟨0x64, 1, 2⟩, ⟨0x6c, 3, 3⟩, ⟨0x64, 3, 4⟩]⟩

/-! ## The enclosures of `px4d` -/

/-- The function of `px4d` that serves a device: `run_q3u4`, `run_w3u4`, `run_mlt5pe`,
`run_single_receiver`. -/
inductive Enclosure
  | q3u4 | w3u4 | mlt5pe | singleReceiver
  deriving DecidableEq, Repr

/-- The dispatch at the end of `main`; the runtime has as many bridges as the profile says. -/
def enclosure (model : DeviceModel) : Enclosure :=
  let profile := deviceProfile model
  if profile.bridgeCount = 1 ∧ profile.dualSystem = false ∧ profile.receiverCount = 4 then .w3u4
  else if profile.bridgeCount ≠ 1 then .q3u4
  else if profile.receiverCount = 1 then .singleReceiver
  else .mlt5pe

end Px4.Device
