import TrapDispatch.Dispatcher

/-!
The debug report: one line about the current trap, followed by the default policy for its class. An
interrupt source that nobody handles is disabled, and a fault that cannot be resumed halts the
hart. Nothing at all happens unless the console is there and available.
-/

namespace TrapDispatch

/-- What a report line shows. -/
structure Report where
  hart : Word
  /-- The trap came from machine mode. -/
  machineMode : Bool
  cause : Cause
  resume : Word
  instruction : Word
  value : Word
  deriving DecidableEq, Repr

/-- The end of a report line. -/
def Disposition.closing : Disposition → String
  | .unhandledInterrupt => " Disabling IRQ source </RTE>\n"
  | .recoverableException => " </RTE>\n"
  | .fatalException => " !!FATAL EXCEPTION!! Halting CPU </RTE>\n"

namespace Report

def privilege (r : Report) : String := if r.machineMode then "M" else "U"

/-- The line without its ending. -/
def opening (r : Report) : String :=
  "<RTE> [cpu" ++ toString r.hart.toNat ++ "|" ++ r.privilege ++ "] " ++ r.cause.name.text ++
    " @ PC=" ++ Hex.padded .upper r.resume ++ ", MTINST=" ++ Hex.padded .upper r.instruction ++
    ", MTVAL=" ++ Hex.padded .upper r.value

def text (r : Report) : String := r.opening ++ r.cause.disposition.closing

end Report

namespace Dispatcher

/-- The instruction that a report shows. Without a register for it, it is fetched only if the trap
can be resumed, and shown as zero otherwise. -/
def reportedInstruction (d : Dispatcher) (cause : Cause) (resume : Word) : Act Word :=
  if d.config.hasMtinst || cause.disposition = .recoverableException then
    d.trappedInstruction resume
  else pure 0#32

/-- The report about the current trap. -/
def observe (d : Dispatcher) : Act Report := do
  let cause : Cause := ⟨← Act.read .cause⟩
  let resume ← Act.read .resumeAddress
  return {
    hart := ← Act.read .hartId
    machineMode := (← Act.read .status) &&& machinePrivilege ≠ 0#32
    cause
    resume
    instruction := ← d.reportedInstruction cause resume
    value := ← Act.read .trapValue }

/-- The default policy. -/
def applyPolicy (d : Dispatcher) (cause : Cause) : Act Unit :=
  match cause.disposition with
  | .unhandledInterrupt => Act.clearBits d.access .interruptEnable (Word.bit cause.code.index)
  | .recoverableException => pure ()
  | .fatalException => do
    Act.write .interruptEnable 0#32
    Act.halt

/-- Report the current trap on a console and apply the default policy. -/
def debugReport (d : Dispatcher) (console : Option Console) : Act Unit := do
  match console with
  | none => pure ()
  | some c =>
    if c.isAvailable (← get) then
      let report ← d.observe
      Act.puts c report.text
      d.applyPolicy report.cause
    else pure ()

/-- The handler that every slot starts with: report on the registered console. -/
def debugHandler (d : Dispatcher) : Act Unit := do
  d.debugReport (← get).backend

end Dispatcher

end TrapDispatch
