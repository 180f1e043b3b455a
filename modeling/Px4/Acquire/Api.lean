import Px4.Device.Grouping
import Px4.Lib.Custody
import Px4.Lib.Oracle
import Px4.Usb.Stream

/-!
# The calls of libusb (`libusb_transport.cpp`)

What `LibusbApi`, `FdSyscalls` and `new (std::nothrow)` return is arbitrary, and may depend on
everything before. A handle is named by the call that opened it, and a duplicate of a descriptor by
the call that made it, so that no two have one name. A device is its address, 0 for none.
-/

namespace Px4.Acquire

open Lib (Oracle Program)
open Px4.Device

/-- `LibusbApi::Handle`, by the number of calls before it was opened. -/
structure Handle where
  opening : Nat
  deriving DecidableEq, Repr

/-- A duplicate of a file descriptor, by the number of calls before it was made. -/
structure Fd where
  duplication : Nat
  deriving DecidableEq, Repr

/-- `LibusbApi::Device`. -/
abbrev Device := Nat

/-- The calls. Those that open a handle or make a duplicate have its name. -/
inductive Ask
  | getDeviceList
  | listDevice (index : Nat)
  | freeDeviceList
  | getDeviceInfo (device : Device)
  | getConfigDescriptor (device : Device)
  | describeConfigDescriptor
  | freeConfigDescriptor
  | getDeviceFromHandle (handle : Handle)
  | getSerialDescriptor (handle : Handle) (index : UInt8)
  | openDevice (device : Device) (handle : Handle)
  | wrapSysDevice (fd : Fd) (handle : Handle)
  | claimInterface (handle : Option Handle)
  | releaseInterface (handle : Handle)
  | close (handle : Handle)
  | valid (fd : Int)
  | duplicate (fd : Int) (made : Fd)
  | closeFd (fd : Fd)
  | newTransport
  deriving DecidableEq, Repr

/-- What they return: a result with what is written through the pointers. A list, a descriptor of a
configuration and a handle may be null whatever the result; of a serial there are the bytes. -/
abbrev Ask.Answer : Ask → Type
  | .getDeviceList => Int × Bool × Nat
  | .listDevice _ => Device
  | .getDeviceInfo _ => Int × DeviceObservation × UInt8
  | .getConfigDescriptor _ => Int × Bool
  | .describeConfigDescriptor => Int × List UsbInterfaceObservation
  | .getDeviceFromHandle _ => Int × Device
  | .getSerialDescriptor _ _ => Int × List UInt8
  | .openDevice _ _ | .wrapSysDevice _ _ => Int × Bool
  | .claimInterface _ | .releaseInterface _ | .duplicate _ _ => Int
  | .valid _ | .newTransport => Bool
  | .freeDeviceList | .freeConfigDescriptor | .close _ | .closeFd _ => Unit

/-- The calls so far, and what the next ones return. -/
abbrev Usb := Oracle Ask Ask.Answer

/-- A program that makes calls. -/
abbrev Calls := Program Usb Error

def ask (q : Ask) : Calls q.Answer := Program.of fun usb => (.ok (usb.ask q).2, (usb.ask q).1)

/-- `open`. -/
def openDevice (device : Device) : Calls (Int × Option Handle) := do
  let usb ← get
  let answer ← ask (.openDevice device ⟨usb.log.length⟩)
  pure (answer.1, if answer.2 then some ⟨usb.log.length⟩ else none)

/-- `wrap_sys_device` of a duplicate. -/
def wrapSysDevice (fd : Fd) : Calls (Int × Option Handle) := do
  let usb ← get
  let answer ← ask (.wrapSysDevice fd ⟨usb.log.length⟩)
  pure (answer.1, if answer.2 then some ⟨usb.log.length⟩ else none)

/-- `duplicate`; a negative result is a failure. -/
def duplicate (fd : Int) : Calls (Option Fd) := do
  let usb ← get
  let result ← ask (.duplicate fd ⟨usb.log.length⟩)
  pure (if 0 ≤ result then some ⟨usb.log.length⟩ else none)

/-- The end of a handle, if there is one: `release_interface`, whose result is not used, if the
interface is claimed, and `close`. -/
def letGo : Option Handle → Bool → Calls Unit
  | none, _ => pure ()
  | some handle, true => do
    let _ ← ask (.releaseInterface handle)
    ask (.close handle)
  | some handle, false => ask (.close handle)

/-- `~RetainedFd`. -/
def closeRetained : Option Fd → Calls Unit
  | none => pure ()
  | some fd => ask (.closeFd fd)

/-! ## What has been done -/

open Lib.Custody (Event) in
/-- What a call has done: whether a handle has been opened or a duplicate made is what it wrote
through the pointer or returned. -/
def event : Sigma Ask.Answer → Option (Event Handle Fd)
  | ⟨.openDevice _ handle, answer⟩ => if answer.2 then some (.opened handle none) else none
  | ⟨.wrapSysDevice fd handle, answer⟩ =>
    if answer.2 then some (.opened handle (some fd)) else none
  | ⟨.claimInterface (some handle), result⟩ => if result = 0 then some (.claimed handle) else none
  | ⟨.releaseInterface handle, _⟩ => some (.released handle)
  | ⟨.close handle, _⟩ => some (.closed handle)
  | ⟨.duplicate _ made, result⟩ => if 0 ≤ result then some (.duplicated made) else none
  | ⟨.closeFd fd, _⟩ => some (.closedDuplicate fd)
  | _ => none

/-- The events of all calls. -/
def events (usb : Usb) : List (Lib.Custody.Event Handle Fd) := usb.log.filterMap event

end Px4.Acquire
