import TrapDispatch.Console
import TrapDispatch.Trap

/-!
Operations on one hart, as a session or a scripted handler lists them. What each of them does is up
to the scenario that they are carried out in.
-/

namespace TrapDispatch

inductive Op where
  -- the dispatcher
  | setup (entry : Nat) (handler : Handler)
  /-- Set the hart up with the session's entry address and the debug handler, and say so. -/
  | start
  | install (code : Word) (slot : Option Handler)
  | handler (code : Word)
  | handleTrap (via : BitAccess)
  | trappedInstruction (resume : Word)
  | contextGet (via : BitAccess) (register : Word)
  | contextPut (via : BitAccess) (register value : Word)
  /-- Report on a console; for the capture console, also look for texts in the report. -/
  | report (via : BitAccess) (console : Option Console) (wanted : List String)
  | debugHandler
  | config
  | entryAddress
  -- interrupt enables
  | enableIrq (code : Word)
  | disableIrq (code : Word)
  | enableInterrupts
  | disableInterrupts
  | restoreInterrupts (was : Bool)
  -- the vector table itself
  | tableInstall (code : Word) (slot : Option Handler)
  | tableGet (code : Word)
  | tableFill (handler : Handler)
  -- the hart
  | read (csr : Csr)
  | write (csr : Csr) (value : Word)
  | setBits (via : BitAccess) (csr : Csr) (mask : Word)
  | clearBits (via : BitAccess) (csr : Csr) (mask : Word)
  | load (address : Nat)
  | store (address : Nat) (value : Word)
  | fence
  | halt
  | poke (csr : Csr) (value : Word)
  | raise (cause resume : Word)
  | pushFrame (base : Nat) (x : Frame)
  | frame (base : Nat)
  | trap (event : TrapEvent) (x : Frame)
  -- the registered console
  | switchConsole (available : Bool)
  | backend
  | print (text : String)
  | printChars (text : String)
  | printHex (value : Word)
  | log (style : LogStyle) (message : String)
  /-- Write formatted text to the registered console, even while it is unavailable. -/
  | writer (text : String)
  | selfTest

end TrapDispatch
