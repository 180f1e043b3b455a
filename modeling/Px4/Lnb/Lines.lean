import Px4.Lnb.Board

/-!
# `Q3U4LnbPowerCoordinator` over two lines

The coordinator with a supply of its own on each bridge, behind links that fail in any pattern
(`Lib.Faulty`, one cell per bridge). `Sys.board` reads it as a `Board`.
-/

namespace Px4.Lnb

/-- GPIO 11 of the bridges. -/
abbrev Lines := Lib.Faulty Nat Bool Error

/-- `set_lnb_power` of the bridges. -/
def lineBackend : Backend Lines := fun bridge on lines => lines.write bridge on

/-- What the coordinator believes of a bridge and what is true of it. -/
def Sys.supply (s : Sys Lines) (bridge : Nat) : Supply :=
  ⟨s.coord.physicalState bridge, s.coord.cleanupDebt bridge, s.hw.value bridge,
    s.hw.logOf bridge, s.hw.Reports bridge .disconnected⟩

/-- The operations of `Q3U4LnbPowerCoordinator`. -/
inductive Call
  | beginTune (receiver voltage : Nat)
  | commitTune (receiver : Nat)
  | rollbackTune (receiver : Nat)
  | release (receiver : Nat)
  | setIndependentPower (enabled : Bool)
  | reconcile
  | disconnect (bridge : Nat)
  | shutdown
  deriving DecidableEq, Repr

/-- An operation with its result. -/
def call (s : Sys Lines) : Call → Sys Lines × Result Unit
  | .beginTune receiver voltage => beginTune lineBackend receiver voltage s
  | .commitTune receiver => commitTune receiver s
  | .rollbackTune receiver => rollbackTune lineBackend receiver s
  | .release receiver => releaseReceiver lineBackend receiver s
  | .setIndependentPower enabled => setIndependentPower lineBackend enabled s
  | .reconcile => reconcile lineBackend s
  | .disconnect bridge => disconnect bridge s
  | .shutdown => shutdown lineBackend s

/-- A coordinator after `initialize_q3u4` has verified GPIO 11 low on both bridges. -/
def start (allow15v : Bool) (outcomes : Nat → Lib.Outcome Error) : Sys Lines where
  coord := { allow15v }
  hw := { value := fun _ => false, outcomes }

/-- A run of operations. -/
def calls (s : Sys Lines) (ops : List Call) : Sys Lines := ops.foldl (fun s op => (call s op).1) s

/-! ## As a board -/

/-- Receivers 0, 1, 4 and 5 are the satellite ones; two on each bridge. -/
def q3u4Wiring : Wiring := ⟨2, bridgeIndexForReceiver, validSatelliteReceiver⟩

/-- The requests and supplies of the coordinator. -/
def Sys.board (s : Sys Lines) : Board where
  allow := s.coord.allow15v
  pending r := if (s.coord.receivers r).pending then some (s.coord.receivers r).pending15v else none
  committed r := (s.coord.receivers r).committed && (s.coord.receivers r).committed15v
  independent := s.coord.independent15v
  supply := s.supply

/-- The operation of a call. -/
def Call.operation : Call → Operation
  | .beginTune receiver voltage => .begin receiver (voltage == 15)
  | .commitTune receiver => .commit receiver
  | .rollbackTune receiver => .rollback receiver
  | .release receiver => .release receiver
  | .setIndependentPower enabled => .independent enabled
  | .reconcile => .reconcile
  | .disconnect bridge => .disconnect bridge
  | .shutdown => .shutdown

/-- A call with its record of tunes. -/
def noted (s : Sys Lines × Tunes) (op : Call) : Sys Lines × Tunes :=
  ((call s.1 op).1, s.2.note q3u4Wiring op.operation (call s.1 op).2)

end Px4.Lnb
