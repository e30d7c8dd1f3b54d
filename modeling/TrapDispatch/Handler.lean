import TrapDispatch.Word

/-!
What a slot of the vector table may hold. A handler is a name: what it does is decided by whoever
runs it, so the table stays plain data.
-/

namespace TrapDispatch

/-- The handlers that the self tests install for the time of one test. -/
inductive Probe where
  /-- Counts its calls. -/
  | countHit
  /-- Counts its calls and reports to the capture console. -/
  | reportToCapture
  /-- Notes three registers of the interrupted program and adds one to `a0`. -/
  | bumpA0
  /-- Disarms the timer and counts its calls. -/
  | onTimer
  deriving DecidableEq, Repr

inductive Handler where
  /-- Report the trap and apply the default policy. -/
  | debug
  /-- Run the numbered list of operations. -/
  | script (number : Nat)
  | probe (which : Probe)
  deriving DecidableEq, Repr

end TrapDispatch
