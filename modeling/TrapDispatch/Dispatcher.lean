import TrapDispatch.Cause
import TrapDispatch.Console

/-!
The dispatcher: setting a hart up for traps, installing handlers, and the dispatch of one trap.
What a handler does is a parameter of the dispatch, so its laws hold for handlers of any kind.
-/

namespace TrapDispatch

/-- How a dispatcher reaches the registers of its hart, and what it knows of the core. -/
structure Dispatcher where
  access : BitAccess
  config : Config
  deriving DecidableEq, Repr

/-- What installed handlers do when they are called. -/
abbrev Behaviour : Type := Handler → Act Unit

/-- The previous-privilege field of the status register, set to machine mode. -/
def machinePrivilege : Word := 0x1800#32

namespace Act

/-- Install a handler for a code word, or empty its slot. A word that encodes no code is refused and
nothing changes. -/
def install (code : Word) (slot : Option Handler) : Act (Except InvalidCode Unit) := do
  match Code.ofBits code with
  | .ok c =>
    modifyTable (·.install c slot)
    return .ok ()
  | .error e => return .error e

end Act

namespace Dispatcher

/-- Prepare the current hart for traps: previous privilege machine mode and all else in the status
register off, the entry address as direct trap vector, no interrupt source enabled. The primary
hart also puts the default handler into every slot. -/
def setup (d : Dispatcher) (entry : Nat) (default : Handler) : Act Unit := do
  Act.write .status machinePrivilege
  Act.write .trapVector (BitVec.ofNat 32 entry &&& ~~~3#32)
  Act.write .interruptEnable 0#32
  if (← Act.read .hartId) = d.config.primaryHart then
    Act.modifyTable (·.fill default)
  Act.fence

/-- The instruction that trapped: reported by the core, or else fetched from memory, where it may
begin in the upper half of a word. -/
def trappedInstruction (d : Dispatcher) (resume : Word) : Act Word := do
  if d.config.hasMtinst then Act.read .trappedInstruction
  else
    let word ← Act.load (resume &&& ~~~3#32).toNat
    return if resume &&& 2#32 = 0#32 then word else word >>> 16

/-- Move the resume address past the trapped instruction, where the cause asks for it. Without
two-byte instructions the instruction is not looked at. -/
def advance (d : Dispatcher) (cause : Cause) : Act Unit := do
  if cause.resumesInPlace then pure ()
  else
    let resume ← Act.read .resumeAddress
    let instruction ← if d.config.compressedIsa then d.trappedInstruction resume else pure 0#32
    match cause.nextResume resume instruction d.config.compressedIsa with
    | some next => Act.write .resumeAddress next
    | none => pure ()

/-- Dispatch the current trap: call the handler in the slot of its cause, if there is one, then
move the resume address on. The cause is the one read on entry; the rest is read after the
handler. -/
def handleTrap (d : Dispatcher) (behaviour : Behaviour) : Act Unit := do
  let cause : Cause := ⟨← Act.read .cause⟩
  match ← Act.slot cause.code with
  | some handler => behaviour handler
  | none => pure ()
  d.advance cause

/-! ### The interrupted program -/

/-- Where a register of the interrupted program is kept while a trap is handled. -/
def frameSlot (d : Dispatcher) (register : Word) : Act Nat :=
  return (← Act.read .scratch).toNat + Frame.slotOffset register d.config.frameRegisters

/-- A register of the interrupted program. -/
def contextGet (d : Dispatcher) (register : Word) : Act Word := do
  Act.load (← d.frameSlot register)

/-- Change a register of the interrupted program. Slot 0 may be written but `x0` still reads zero;
slot 2 moves the interrupted stack pointer. -/
def contextPut (d : Dispatcher) (register value : Word) : Act Unit := do
  Act.store (← d.frameSlot register) value

/-! ### Interrupt enables -/

/-- The global interrupt enable in the status register. -/
def interruptFlag : Word := Word.bit ⟨3, by decide⟩

/-- Enable one interrupt source; nothing happens for the code of an exception. -/
def enableIrq (d : Dispatcher) (c : Code) : Act Unit :=
  if c.isInterrupt then Act.setBits d.access .interruptEnable (Word.bit c.index) else pure ()

/-- Disable one interrupt source; nothing happens for the code of an exception. -/
def disableIrq (d : Dispatcher) (c : Code) : Act Unit :=
  if c.isInterrupt then Act.clearBits d.access .interruptEnable (Word.bit c.index) else pure ()

/-- Whether interrupts are enabled globally. -/
def interruptsEnabled : Act Bool := return (← Act.read .status) &&& interruptFlag ≠ 0#32

/-- Enable interrupts globally; answers whether they were enabled before. -/
def enableInterrupts (d : Dispatcher) : Act Bool := do
  let was ← interruptsEnabled
  Act.setBits d.access .status interruptFlag
  return was

/-- Disable interrupts globally; answers whether they were enabled before. -/
def disableInterrupts (d : Dispatcher) : Act Bool := do
  let was ← interruptsEnabled
  Act.clearBits d.access .status interruptFlag
  return was

/-- Enable interrupts globally if they were enabled before, and otherwise leave them alone. -/
def restoreInterrupts (d : Dispatcher) (was : Bool) : Act Unit :=
  if was then Act.setBits d.access .status interruptFlag else pure ()

end Dispatcher

end TrapDispatch
