import TrapDispatch.Word

/-!
The configuration of a trap runtime: what the core and the boot code promise to it.
-/

namespace TrapDispatch

/-- The general-purpose registers saved in a trap frame. -/
def frameRegisters : Nat := 32

structure Config where
  /-- The hart that fills the vector table during setup. -/
  primaryHart : Word
  /-- Register slots in a trap frame. -/
  frameRegisters : Nat
  /-- The core may run two-byte instructions. -/
  compressedIsa : Bool
  /-- The core reports the trapped instruction in a register of its own. -/
  hasMtinst : Bool
  deriving DecidableEq, Repr

/-- Hart 0 is primary, a frame has every register, and traps report their instruction, which is never
compressed. -/
def Config.default : Config := ⟨0#32, TrapDispatch.frameRegisters, false, true⟩

end TrapDispatch
