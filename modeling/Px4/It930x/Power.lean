import Px4.It930x.Registers

/-!
# Backend power of a bridge (`it930x.cpp`)

`set_q3u4_backend_power` brings GPIO 7 (reset) and GPIO 2 (backend supply) of a bridge to the levels
of `on` or `off` by two register writes and remembers what it believes of them. The waits between
the writes are left out.
-/

namespace Px4.It930x

/-- `Q3U4PowerState`, and `Q3U4BackendPowerState` of the controller. -/
inductive PowerState
  | unknown | off | on | disconnected
  deriving DecidableEq, Repr

/-- `Q3U4Register::gpio2_output`. -/
def gpio2Output : Nat := 0xd8b7

/-- `Q3U4Register::gpio7_output`. -/
def gpio7Output : Nat := 0xd8c3

/-- What `It930xController` has of the backend power: `q3u4_backend_power_state_`, and the registers
behind its transport. -/
structure Controller where
  backendPowerState : PowerState := .off
  bus : Bus

namespace Controller

/-- `write_q3u4_register_locked`. -/
def write (c : Controller) (reg : Nat) (value : UInt8) : Controller × Result Unit :=
  ({ c with bus := (c.bus.write reg value).1 }, (c.bus.write reg value).2)

/-- `q3u4_backend_power_state_ = state`. -/
def setState (c : Controller) (state : PowerState) : Controller :=
  { c with backendPowerState := state }

/-- What `terminal_disconnect` leads to. -/
def lost (c : Controller) : Controller × Result Unit :=
  (c.setState .disconnected, .error .disconnected)

/-- The end of a failed `on`: both lines are restored, since a failed write may have reached the
device. -/
def restore (c : Controller) (e : Error) : Controller × Result Unit :=
  if e = .disconnected then c.lost
  else match c.write gpio2Output 0 with
    | (c, .error .disconnected) => c.lost
    | (c, cleanupBackend) =>
      match c.write gpio7Output 1 with
      | (c, .error .disconnected) => c.lost
      | (c, cleanupReset) =>
        (c.setState (if cleanupBackend.isOk && cleanupReset.isOk then .off else .unknown), .error e)

/-- The `on` sequence. -/
def powerOn (c : Controller) : Controller × Result Unit :=
  match c.write gpio7Output 0 with
  | (c, .error reset) => c.restore reset
  | (c, .ok ()) =>
    match c.write gpio2Output 1 with
    | (c, .error backend) => c.restore backend
    | (c, .ok ()) => (c.setState .on, .ok ())

/-- The first of two errors. -/
def firstError : Result Unit → Result Unit → Option Error
  | .error e, _ => some e
  | .ok (), .error e => some e
  | .ok (), .ok () => none

/-- The `off` sequence: GPIO 7 is restored even if GPIO 2 failed. -/
def powerOff (c : Controller) : Controller × Result Unit :=
  match c.write gpio2Output 0 with
  | (c, .error .disconnected) => c.lost
  | (c, backend) =>
    match c.write gpio7Output 1 with
    | (c, .error .disconnected) => c.lost
    | (c, reset) =>
      match firstError backend reset with
      | none => (c.setState .off, .ok ())
      | some e => (c.setState (if e = .disconnected then .disconnected else .unknown), .error e)

/-- `set_q3u4_backend_power`. -/
def setQ3u4BackendPower (on : Bool) (c : Controller) : Controller × Result Unit :=
  if c.backendPowerState = .disconnected then (c, .error .disconnected)
  else if c.backendPowerState = (if on then .on else .off) then (c, .ok ())
  else if on then c.powerOn
  else c.powerOff

end Controller

end Px4.It930x
