import TrapDispatch.Machine

/-!
Diagnostic consoles and the text that goes to them. Printing goes to the registered console and is
dropped while that console is unavailable; a report may go to any console. Main facts:
`print_append` and `forM_print` (text may be printed in pieces) and `printChars_eq` (printing the
characters of a text one after another prints the text).
-/

namespace TrapDispatch

/-- The consoles within reach. -/
inductive Console where
  /-- The registered console. -/
  | registered
  /-- The capture console, always available. -/
  | capture
  /-- A console that is never available. -/
  | offline
  deriving DecidableEq, Repr

namespace Console

def isAvailable (c : Console) (m : Machine) : Bool :=
  match c with
  | .registered => m.recorder.available
  | .capture => m.capture.isAvailable
  | .offline => false

/-- Write to a console, whether it is available or not. -/
def puts (c : Console) (s : String) (m : Machine) : Machine :=
  match c with
  | .registered => { m with recorder := { m.recorder with text := m.recorder.text ++ s } }
  | .capture => { m with capture := m.capture.puts s }
  | .offline => m

end Console

/-- How a message is marked: not at all, as a line, or by the level of its importance. The place of
a debug message is a placeholder unless it is given. -/
inductive LogStyle where
  | plain
  | line
  /-- With the file and line of the call. -/
  | debug (place : String := "FILE:LINE")
  | error
  | warn
  | info
  deriving DecidableEq, Repr

/-- A message in its style. Errors are red, warnings yellow and notes green. -/
def LogStyle.render (message : String) : LogStyle → String
  | .plain => message
  | .line => message ++ "\n"
  | .debug place => "[" ++ place ++ "] " ++ message ++ "\n"
  | .error => "\x1b[31m[ERROR] " ++ message ++ "\x1b[0m\n"
  | .warn => "\x1b[33m[WARN] " ++ message ++ "\x1b[0m\n"
  | .info => "\x1b[32m[INFO] " ++ message ++ "\x1b[0m\n"

/-- The registered console, if it is available. -/
def Machine.backend (m : Machine) : Option Console :=
  if Console.registered.isAvailable m then some .registered else none

/-- The machine after printing on the registered console, if it is available. -/
def Machine.print (m : Machine) (s : String) : Machine :=
  match m.backend with
  | some c => c.puts s m
  | none => m

theorem Machine.print_eq (m : Machine) (s : String) :
    m.print s = if m.recorder.available then Console.registered.puts s m else m := by
  unfold print backend
  by_cases h : m.recorder.available <;> simp [Console.isAvailable, h]

/-- On an available console a text is put behind what was recorded before. -/
theorem Machine.print_of_available {m : Machine} (available : m.recorder.available = true)
    (text : String) : m.print text = { m with recorder := ⟨true, m.recorder.text ++ text⟩ } := by
  rw [print_eq, if_pos available, ← available]
  rfl

namespace Act

/-- Write to a console, whether it is available or not. -/
def puts (c : Console) (s : String) : Act Unit := modify (c.puts s)

/-- Print on the registered console, if it is available. -/
def print (s : String) : Act Unit := modify (·.print s)

/-- Print characters one after another. -/
def printChars : List Char → Act Unit
  | [] => pure ()
  | c :: cs => do
    print (String.singleton c)
    printChars cs

/-- Print a word as eight hexadecimal digits. -/
def printHex (w : Word) : Act Unit := print (Hex.padded .upper w)

def log (style : LogStyle) (message : String) : Act Unit := print (style.render message)

/-- What printing does to the machine. -/
theorem print_run (s : String) (m : Machine) : print s m = .ok () (m.print s) := rfl

/-- Text may be printed in pieces. -/
theorem print_append (s t : String) : print (s ++ t) = (do print s; print t) := by
  funext m
  simp only [bind, EStateM.bind, print_run, Machine.print_eq]
  by_cases h : m.recorder.available <;> simp [h, Console.puts, String.append_assoc]

/-- A text may be printed in any number of pieces, also in none. -/
theorem forM_print (pieces : List String) : pieces.forM print = print (String.join pieces) := by
  induction pieces with
  | nil =>
      funext m
      rw [print_run, Machine.print_eq, String.join_nil]
      simp only [Console.puts, String.append_empty, ite_self]
      rfl
  | cons piece pieces ih =>
      rw [String.join_cons, print_append, ← ih]
      rfl

/-- Printing the characters of a text one after another prints the text. -/
theorem printChars_eq (cs : List Char) : printChars cs = print (String.ofList cs) := by
  induction cs with
  | nil =>
    funext m
    rw [print_run, Machine.print_eq]
    simp [printChars, pure, EStateM.pure, Console.puts]
  | cons c cs ih =>
    have : String.ofList (c :: cs) = String.singleton c ++ String.ofList cs := by
      apply String.toList_injective
      simp
    rw [this, print_append, printChars, ih]

end Act

end TrapDispatch
