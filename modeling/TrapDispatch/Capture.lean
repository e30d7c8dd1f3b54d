import TrapDispatch.Ring
import TrapDispatch.Utf8

/-!
A console that keeps the newest bytes written to it, for checking diagnostic text. Main fact:
`contains_iff`, a text is found exactly when its bytes occur contiguously in the kept bytes.
-/

namespace TrapDispatch

/-- Whether one list occurs contiguously in another. -/
def occursIn {α : Type} [BEq α] (needle : List α) : List α → Bool
  | [] => needle.isEmpty
  | a :: rest => needle.isPrefixOf (a :: rest) || occursIn needle rest

theorem occursIn_iff {α : Type} [BEq α] [LawfulBEq α] {needle hay : List α} :
    occursIn needle hay = true ↔ needle <:+: hay := by
  induction hay with
  | nil => simp [occursIn]
  | cons a rest ih => simp [occursIn, ih, List.infix_cons_iff, List.isPrefixOf_iff_prefix]

structure Capture where
  ring : Ring Byte
  deriving DecidableEq, Repr

namespace Capture

def empty (capacity : Nat) : Capture := ⟨.empty capacity⟩

def ofCapacity (capacity : Nat) : Except Fault Capture :=
  (Ring.ofCapacity capacity).map Capture.mk

/-- The kept bytes, oldest first. -/
def contents (c : Capture) : List Byte := c.ring.toList

def length (c : Capture) : Nat := c.ring.count

def isEmpty (c : Capture) : Bool := c.ring.isEmpty

/-- A capture takes output at any time. -/
def isAvailable (_ : Capture) : Bool := true

def putc (c : Capture) (byte : Byte) : Capture := ⟨c.ring.push byte⟩

def puts (c : Capture) (s : String) : Capture := ⟨c.ring.pushAll (Utf8.bytes s)⟩

def clear (c : Capture) : Capture := ⟨c.ring.clear⟩

/-- Whether the bytes of a text occur in the kept bytes. -/
def contains (c : Capture) (s : String) : Bool := occursIn (Utf8.bytes s) c.contents

theorem contains_iff {c : Capture} {s : String} :
    c.contains s = true ↔ Utf8.bytes s <:+: c.contents := occursIn_iff

/-- Text may be written in pieces. -/
theorem puts_append (c : Capture) (s t : String) : c.puts (s ++ t) = (c.puts s).puts t := by
  simp [puts, Ring.pushAll]

end Capture

/-! ### Commands to a capture -/

inductive CaptureCommand where
  | putc (byte : Byte)
  | puts (text : String)
  /-- Formatted output, which always succeeds. -/
  | write (text : String)
  | clear
  | contains (text : String)
  deriving DecidableEq, Repr

/-- The answer is a truth value or none. -/
def CaptureCommand.run (c : Capture) : CaptureCommand → Capture × Option Bool
  | .putc byte => (c.putc byte, none)
  | .puts text => (c.puts text, none)
  | .write text => (c.puts text, some true)
  | .clear => (c.clear, none)
  | .contains text => (c, some (c.contains text))

end TrapDispatch
