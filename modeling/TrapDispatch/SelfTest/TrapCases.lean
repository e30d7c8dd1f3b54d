import TrapDispatch.SelfTest.Probe
import TrapDispatch.TestSuite
import TrapDispatch.Trap

/-!
Self tests of the dispatcher. Each test that installs a handler puts the debug handler back
afterwards. The traps are taken by a program with a known stack pointer at a known address, and
the timer test waits for an interrupt while time goes on in steps.
-/

namespace TrapDispatch.SelfTest

/-- What the self tests run on: a dispatcher, the address of its trap entry, and what handlers do. -/
structure Rig where
  dispatcher : Dispatcher
  entry : Nat
  behaviour : Behaviour

/-! ### The program under test -/

/-- The address of every instruction that traps. -/
def programCounter : Word := 0x80001000#32

def stackPointer : Word := 0x80010000#32

/-- The registers of the program: zero except for the stack pointer. -/
def registers : Frame := Frame.zero.set Frame.stackPointer stackPointer

/-- An instruction that no core implements. -/
def unimplemented : TrapEvent :=
  ⟨Code.illegalInstruction.bits, programCounter, 0xc0001073#32, 0xc0001073#32⟩

def breakpoint : TrapEvent := ⟨Code.breakpoint.bits, programCounter, 0x00100073#32, 0#32⟩

def environmentCall : TrapEvent := ⟨Code.machineEnvCall.bits, programCounter, 0x73#32, 0#32⟩

def timerInterrupt : TrapEvent := ⟨Code.machineTimer.bits, programCounter, 0#32, 0#32⟩

/-- Take a trap in the program; answers the registers that it goes on with. -/
def Rig.trap (r : Rig) (event : TrapEvent) (x : Frame) : Act Frame :=
  r.dispatcher.takeTrap r.behaviour event x

/-- Put a handler into a slot for the time of a check, and the debug handler afterwards. -/
def withHandler (c : Code) (slot : Option Handler) (check : Act Bool) : Act Verdict := do
  match ← Act.install c.bits slot with
  | .error _ => return .fail
  | .ok () =>
    let passed ← check
    match ← Act.install c.bits (some .debug) with
    | .error _ => return .fail
    | .ok () => return .ofBool passed

/-! ### The timer -/

/-- The time that passes in one turn of a waiting loop. -/
def spinTime : BitVec 64 := 500#64

/-- The turns after which a waiting loop gives up. -/
def spinLimit : Nat := 10000000

/-- Whether the hart takes a timer interrupt: the deadline has come, and interrupts are enabled
globally and for the timer. -/
def timerPending (m : Machine) : Bool :=
  m.bench.deadline ≤ m.bench.time &&
    m.hart.read .status &&& Dispatcher.interruptFlag ≠ 0#32 &&
    m.hart.read .interruptEnable &&& Word.bit Code.machineTimer.index ≠ 0#32

/-- One turn of a waiting loop. -/
def spin (r : Rig) : Act Unit := do
  Act.modifyBench fun b => { b with time := b.time + spinTime }
  if timerPending (← get) then
    let _ ← r.trap timerInterrupt registers

/-- Wait for a probe to be called, for a limited number of turns. -/
def awaitHit (r : Rig) : (turns : Nat) → Act Unit
  | 0 => pure ()
  | turns + 1 => do
    if (← Act.hits) = 0 then
      spin r
      awaitHit r turns
    else pure ()

/-- Ask for an interrupt soon. The deadline is found from the low word of the time alone. -/
def armTimer : Act Unit :=
  Act.modifyBench fun b =>
    { b with deadline := (b.time.setWidth 32 + 1000#32).setWidth 64 }

/-! ### The cases -/

def defaultTable : Act Verdict := do
  let table := (← get).table
  return .ofBool (Code.all.all fun c => table.get c = some .debug)

def trapVector (r : Rig) : Act Verdict :=
  return .ofBool ((← Act.read .trapVector) = BitVec.ofNat 32 r.entry)

/-- Whether the codes are all refused. -/
def allRefused : List Word → Act Bool
  | [] => return true
  | w :: ws => do
    match ← Act.install w (some (.probe .countHit)) with
    | .ok () => return false
    | .error _ => allRefused ws

def installRejectsInvalid : Act Verdict := do
  let before ← Act.slot .machineTimer
  let refused ← allRefused [0x40000007#32, 0x80000020#32, 0x00000100#32]
  return .ofBool (refused && (← Act.slot .machineTimer) = before)

def illegalInstruction (r : Rig) : Act Verdict :=
  withHandler .illegalInstruction (some (.probe .reportToCapture)) do
    modify fun m => { m with capture := .empty captureCapacity }
    Act.clearHits
    let _ ← r.trap unimplemented registers
    return 0 < (← Act.hits) && (← get).capture.contains "Illegal instruction @ PC="

def breakpointTwice (r : Rig) : Act Verdict :=
  withHandler .breakpoint (some (.probe .countHit)) do
    Act.clearHits
    let _ ← r.trap breakpoint registers
    let _ ← r.trap breakpoint registers
    return (← Act.hits) = 2

def defaultHandlerResumes (r : Rig) : Act Verdict := do
  let _ ← r.trap breakpoint registers
  return .pass

def clearedSlotResumes (r : Rig) : Act Verdict :=
  withHandler .breakpoint none do
    let cleared := (← Act.slot .breakpoint).isNone
    let _ ← r.trap breakpoint registers
    return cleared

/-- The mark that the program keeps in `t2` over its call. -/
def t2Mark : Word := 0x5a5a0707#32

/-- The registers of the program that makes the environment call. -/
def callRegisters : Frame := (registers.set Frame.a0 41#32).set 7 t2Mark

def ecallContext (r : Rig) : Act Verdict :=
  withHandler .machineEnvCall (some (.probe .bumpA0)) do
    let x ← r.trap environmentCall callRegisters
    let a0 := x.get ⟨Frame.a0, by decide⟩
    Act.log .debug ("a0 after ecall: " ++ toString a0.toNat)
    let b := (← get).bench
    return a0 = 42#32 && x[7] = t2Mark && b.seenZero = 0#32 && b.seenStack = stackPointer &&
      b.seenT2 = t2Mark

def machineTimer (r : Rig) : Act Verdict :=
  withHandler .machineTimer (some (.probe .onTimer)) do
    Act.clearHits
    armTimer
    let was ← r.dispatcher.disableInterrupts
    r.dispatcher.enableIrq .machineTimer
    let _ ← r.dispatcher.enableInterrupts
    awaitHit r spinLimit
    let _ ← r.dispatcher.disableInterrupts
    r.dispatcher.disableIrq .machineTimer
    Act.disarmTimer
    r.dispatcher.restoreInterrupts was
    return (← Act.hits) = 1

def trapSuite (r : Rig) : TestSuite where
  name := "Trap Runtime"
  cases := [
    ⟨"default_table", "Test that every slot starts at the debug handler", defaultTable⟩,
    ⟨"trap_vector", "Test that mtvec points at the trap entry in direct mode", trapVector r⟩,
    ⟨"install_rejects_invalid", "Test that malformed trap identifiers are refused",
      installRejectsInvalid⟩,
    ⟨"illegal_instruction", "Test reporting and skipping an illegal instruction",
      illegalInstruction r⟩,
    ⟨"breakpoint", "Test dispatch of ebreak to an installed handler", breakpointTwice r⟩,
    ⟨"default_handler_resumes", "Test that the debug handler resumes after a breakpoint",
      defaultHandlerResumes r⟩,
    ⟨"cleared_slot_resumes", "Test that an emptied slot skips the handler and resumes",
      clearedSlotResumes r⟩,
    ⟨"ecall_context", "Test register access from a handler through the trap frame",
      ecallContext r⟩,
    ⟨"machine_timer", "Test a CLINT timer interrupt with a custom handler",
      machineTimer r⟩]

end TrapDispatch.SelfTest
