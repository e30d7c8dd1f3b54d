import TrapDispatch.Report

/-!
A whole trap, as the hardware and the entry stub carry it out around the dispatch: the trap
registers are loaded, the registers of the interrupted program are saved below its stack pointer,
the trap is dispatched, and the saved registers are restored.
-/

namespace TrapDispatch

/-- What the hardware records about a trap. -/
structure TrapEvent where
  cause : Word
  resume : Word
  instruction : Word
  value : Word
  deriving DecidableEq, Repr

namespace Dispatcher

/-- Where the frame of an interrupted program goes: just below its stack pointer, wrapping at the
end of the address space. -/
def frameBase (x : Frame) : Nat := (x[2] - BitVec.ofNat 32 Frame.size).toNat

/-- The trap registers and the saved frame, ready for the dispatch. -/
def enter (event : TrapEvent) (x : Frame) (h : Hart) : Hart :=
  ((((h.raise event.cause event.resume).poke .trappedInstruction event.instruction).poke
    .trapValue event.value).pushFrame (frameBase x) x).fence

/-- Take a trap in a program with the given registers; answers its registers when it goes on. The
frame is found where it was put, whatever becomes of the scratch register. -/
def takeTrap (d : Dispatcher) (behaviour : Behaviour) (event : TrapEvent) (x : Frame) :
    Act Frame := do
  let x := x.hardwireZero
  Act.modifyHart (enter event x)
  d.handleTrap behaviour
  return ((← get).hart.memory.frame (frameBase x)).hardwireZero

end Dispatcher

end TrapDispatch
