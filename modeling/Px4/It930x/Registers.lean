import Px4.Core
import Px4.Lib.Faulty

/-!
# Register writes of the bridge (`it930x.cpp`)

`write_q3u4_register_locked` sends one command and waits for its reply; a write that fails may have
reached the bridge or not (`Lib.Faulty`).
-/

namespace Px4.It930x

/-- The registers of a bridge behind its USB transport; `Bus.write` is
`write_q3u4_register_locked`. -/
abbrev Bus := Lib.Faulty Nat UInt8 Error

end Px4.It930x
