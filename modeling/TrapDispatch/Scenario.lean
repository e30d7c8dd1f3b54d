import TrapDispatch.Op
import TrapDispatch.SelfTest

/-!
Scenarios: what each operation does in a session with a given configuration, entry address and set
of scripts. A scripted handler runs the operations of its script on the hart that takes the trap,
and may trap again in turn. Its runs are counted down from the depth of the scenario, which may be
any number: a handler that is trapped into deeper than that stops with a fault.
-/

namespace TrapDispatch

/-- How deep a handler may trap into further handlers. -/
class Nesting where
  depth : Nat

/-- The depth of a scenario that does not say otherwise. -/
instance : Nesting := ⟨999⟩

/-- What a session is set in. -/
structure Scenario where
  config : Config
  /-- The address of the trap entry. -/
  entry : Nat
  /-- What the scripted handlers run. -/
  scripts : Nat → List Op
  [nesting : Nesting]

namespace Scenario

/-- The dispatcher that changes bits in one way or the other. -/
def dispatcher (s : Scenario) (via : BitAccess) : Dispatcher := ⟨via, s.config⟩

/-- The dispatcher that the handlers and the whole traps of a session go through. -/
def native (s : Scenario) : Dispatcher := s.dispatcher .bitInstructions

/-- Act on a code word, which is refused if it encodes no code. -/
def withCode (w : Word) (act : Code → Act Reply) : Act Reply :=
  match Code.ofBits w with
  | .ok c => act c
  | .error e => return .invalid e

/-- Report on a console. The capture console starts empty and is searched afterwards. -/
def report (d : Dispatcher) (console : Option Console) (wanted : List String) : Act Reply := do
  if console = some .capture then
    modify fun m => { m with capture := .empty captureCapacity }
    d.debugReport console
    let capture := (← get).capture
    return .captured capture.length (wanted.map capture.contains)
  else
    d.debugReport console
    return .nothing

/-- Set the current hart up with the debug handler in every slot, and say so. -/
def start (s : Scenario) : Act Unit := do
  s.native.setup s.entry .debug
  let hart ← Act.read .hartId
  Act.log .debug ("hart " ++ toString hart.toNat ++ " trap runtime ready")

/-- Carry out an operation, given what handlers do. -/
def perform (s : Scenario) (behaviour : Behaviour) : Op → Act Reply
  | .setup entry handler => do
    (s.dispatcher .readModifyWrite).setup entry handler
    return .nothing
  | .start => do
    s.start
    return .nothing
  | .install code slot => do
    match ← Act.install code slot with
    | .ok () => return .accepted
    | .error e => return .invalid e
  | .handler code => withCode code fun c => return .handler (← Act.slot c)
  | .handleTrap via => do
    (s.dispatcher via).handleTrap behaviour
    return .nothing
  | .trappedInstruction resume =>
    return .word (← (s.dispatcher .readModifyWrite).trappedInstruction resume)
  | .contextGet via register => return .word (← (s.dispatcher via).contextGet register)
  | .contextPut via register value => do
    (s.dispatcher via).contextPut register value
    return .nothing
  | .report via console wanted => report (s.dispatcher via) console wanted
  | .debugHandler => do
    s.native.debugHandler
    return .nothing
  | .config => return .config s.config
  | .entryAddress => return .number s.entry
  | .enableIrq code => withCode code fun c => do
    s.native.enableIrq c
    return .nothing
  | .disableIrq code => withCode code fun c => do
    s.native.disableIrq c
    return .nothing
  | .enableInterrupts => return .flag (← s.native.enableInterrupts)
  | .disableInterrupts => return .flag (← s.native.disableInterrupts)
  | .restoreInterrupts was => do
    s.native.restoreInterrupts was
    return .nothing
  | .tableInstall code slot => withCode code fun c => do
    Act.modifyTable (·.install c slot)
    return .nothing
  | .tableGet code => withCode code fun c => return .handler ((← get).table.get c)
  | .tableFill handler => do
    Act.modifyTable (·.fill handler)
    return .nothing
  | .read csr => return .word (← Act.read csr)
  | .write csr value => do
    Act.write csr value
    return .nothing
  | .setBits via csr mask => do
    Act.setBits via csr mask
    return .nothing
  | .clearBits via csr mask => do
    Act.clearBits via csr mask
    return .nothing
  | .load address => return .word (← Act.load address)
  | .store address value => do
    Act.store address value
    return .nothing
  | .fence => do
    Act.fence
    return .nothing
  | .halt => Act.halt
  | .poke csr value => do
    Act.modifyHart (·.poke csr value)
    return .nothing
  | .raise cause resume => do
    Act.modifyHart (·.raise cause resume)
    return .nothing
  | .pushFrame base x => do
    Act.modifyHart (·.pushFrame base x)
    return .nothing
  | .frame base => return .words ((← get).hart.memory.frame base).toList
  | .trap event x => return .words (← s.native.takeTrap behaviour event x).toList
  | .switchConsole available => do
    modify fun m => { m with recorder := { m.recorder with available } }
    return .nothing
  | .backend => return .flag (← get).backend.isSome
  | .print text => do
    Act.print text
    return .nothing
  | .printChars text => do
    Act.printChars text.toList
    return .nothing
  | .printHex value => do
    Act.printHex value
    return .nothing
  | .log style message => do
    Act.log style message
    return .nothing
  | .writer text => do
    Act.puts .registered text
    return .flag true
  | .selfTest => return .flag (← SelfTest.run ⟨s.native, s.entry, behaviour⟩)

end Scenario

/-! ### Scripted handlers -/

namespace Act

/-- Note the start of a scripted handler; answers the place of the note. -/
def openVisit (number : Nat) : Act Nat := do
  let place := (← get).visits.length
  modify fun m => { m with visits := m.visits ++ [⟨number, []⟩] }
  return place

/-- Note the reply of an operation that a scripted handler has finished. -/
def noteReply (place : Nat) (reply : Reply) : Act Unit :=
  modify fun m =>
    { m with visits := m.visits.modify place fun v => { v with replies := v.replies ++ [reply] } }

end Act

namespace Scenario

/-- Carry out the operations of a handler in order, noting each reply. -/
def performAll (s : Scenario) (behaviour : Behaviour) (place : Nat) : List Op → Act Unit
  | [] => pure ()
  | op :: ops => do
    Act.noteReply place (← s.perform behaviour op)
    s.performAll behaviour place ops

/-- Run a scripted handler whose operations may run handlers again, down to a depth. -/
def runScript (s : Scenario) : (depth : Nat) → (number : Nat) → Act Unit
  | 0, _ => Act.fault .nestingLimit
  | depth + 1, number => do
    let place ← Act.openVisit number
    s.performAll (Handler.behaviour s.native (s.runScript depth)) place (s.scripts number)

/-- What handlers do in a session. -/
def behaviour (s : Scenario) : Behaviour :=
  Handler.behaviour s.native (s.runScript (s.nesting.depth + 1))

end Scenario

end TrapDispatch
