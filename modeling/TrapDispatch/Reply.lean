import TrapDispatch.Code
import TrapDispatch.Config
import TrapDispatch.Handler

/-!
Answers of operations. An operation that returns nothing still replies, so that a log of replies
has one entry for every operation that ran to its end.
-/

namespace TrapDispatch

inductive Reply where
  | nothing
  /-- A handler was installed. -/
  | accepted
  /-- A code word was refused, and nothing was done. -/
  | invalid (error : InvalidCode)
  | flag (value : Bool)
  | word (value : Word)
  | words (values : List Word)
  | number (value : Nat)
  | handler (slot : Option Handler)
  | config (config : Config)
  /-- The length of a captured text and which of the wanted texts it contains. -/
  | captured (length : Nat) (found : List Bool)
  deriving DecidableEq, Repr

/-- One run of a scripted handler: its number and the replies of the operations that it finished. -/
structure Visit where
  script : Nat
  replies : List Reply
  deriving DecidableEq, Repr

end TrapDispatch
