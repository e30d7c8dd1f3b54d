import TrapDispatch.Hex

/-!
How an operation is cut short: the hart halts, or the operation runs into a fault. Either way what
was changed before stays changed.
-/

namespace TrapDispatch

/-- A mistake of the caller that no operation recovers from. -/
inductive Fault where
  | zeroCapacity
  | unalignedLoad (address : Nat)
  | unalignedStore (address : Nat)
  /-- Handlers that trap into handlers exceed the depth of their scenario. -/
  | nestingLimit
  deriving DecidableEq, Repr

def Fault.message : Fault → String
  | .zeroCapacity => "RingBuffer capacity cannot be zero"
  | .unalignedLoad address => "unaligned load at " ++ Hex.plain .lower address
  | .unalignedStore address => "unaligned store at " ++ Hex.plain .lower address
  | .nestingLimit => "trap handlers nest too deeply"

/-- Why an operation did not return. -/
inductive Stop where
  | halted
  | fault (reason : Fault)
  deriving DecidableEq, Repr

end TrapDispatch
