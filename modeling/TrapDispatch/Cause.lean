import TrapDispatch.Code

/-!
Trap causes. The cause register holds any word. Three views of it are taken: the slot that it
selects (`code`, other bits ignored), its class (`disposition`), and its name in a report
(`name`, exact: a word with stray bits has no name of its own). Main facts: `code_bits` (the slot
is the masked word) and `isFatal_iff` (three words are fatal).
-/

namespace TrapDispatch

/-- A raw word of the cause register. -/
structure Cause where
  bits : Word
  deriving DecidableEq, Repr

/-- What the debug handler does about a cause. -/
inductive Disposition where
  | unhandledInterrupt
  | recoverableException
  | fatalException
  deriving DecidableEq, Repr

namespace Disposition

def name : Disposition → String
  | .unhandledInterrupt => "UnhandledInterrupt"
  | .recoverableException => "RecoverableException"
  | .fatalException => "FatalException"

def isFatal (d : Disposition) : Bool := d = .fatalException

end Disposition

/-- The name of a cause in a report. -/
inductive CauseName where
  | named (text : String)
  | fastIrq (channel : Nat)
  | unknown (bits : Word)
  deriving DecidableEq, Repr

/-- A fast line shows its channel, an unknown cause its whole word. -/
def CauseName.text : CauseName → String
  | .named text => text
  | .fastIrq channel => "Fast IRQ " ++ Hex.plain .upper channel
  | .unknown bits => "Unknown trap cause " ++ Hex.padded .upper bits

/-- The names of the codes that have one. -/
def Code.title (c : Code) : Option String :=
  match c.direction, c.index with
  | .exception, 0 => some "Instruction address misaligned"
  | .exception, 1 => some "Instruction access fault"
  | .exception, 2 => some "Illegal instruction"
  | .exception, 3 => some "Environment breakpoint"
  | .exception, 4 => some "Load address misaligned"
  | .exception, 5 => some "Load access fault"
  | .exception, 6 => some "Store address misaligned"
  | .exception, 7 => some "Store access fault"
  | .exception, 8 => some "Environment call from U-mode"
  | .exception, 11 => some "Environment call from M-mode"
  | .exception, 16 => some "Double-trap"
  | .interrupt, 3 => some "Machine software IRQ"
  | .interrupt, 7 => some "Machine timer IRQ"
  | .interrupt, 11 => some "Machine external IRQ"
  | _, _ => none

namespace Cause

/-- The slot that the cause selects. -/
def code (c : Cause) : Code := .ofWord c.bits

def isInterrupt (c : Cause) : Bool := c.code.direction = .interrupt

/-- The cause is the code and nothing else. -/
def matchesCode (c : Cause) (k : Code) : Bool := c.bits = k.bits

/-- Fetch faults, fetch misalignment and double traps cannot be resumed. -/
def isFatal (c : Cause) : Bool :=
  c.matchesCode .instructionAccessFault || c.matchesCode .instructionMisaligned ||
    c.matchesCode .doubleTrap

def disposition (c : Cause) : Disposition :=
  if c.isInterrupt then .unhandledInterrupt
  else if c.isFatal then .fatalException
  else .recoverableException

/-- A cause is named only if it is the encoding of its slot: by the slot's title, or by its channel
when the slot is a fast interrupt line. -/
def name (c : Cause) : CauseName :=
  if c.code.bits ≠ c.bits then .unknown c.bits
  else match c.code.title with
    | some title => .named title
    | none =>
      if c.isInterrupt && fastIrqBase ≤ c.code.index.val then
        .fastIrq (c.code.index.val - fastIrqBase)
      else .unknown c.bits

/-- The developer's form, such as `TrapCause(Fast IRQ 0xA, raw: 0x8000001a)`. -/
def describe (c : Cause) : String :=
  "TrapCause(" ++ c.name.text ++ ", raw: " ++ Hex.plain .lower c.bits.toNat ++ ")"

/-- Whether the resume address stays where it is: interrupts resume at the right place, and after a
fetch fault the address itself is the problem. -/
def resumesInPlace (c : Cause) : Bool :=
  c.isInterrupt || c.matchesCode .instructionAccessFault

/-- The resume address after the trap, or none if it stays. One instruction is skipped, two bytes
wide if the trapped instruction is compressed (its low bits are not both set) and four otherwise. -/
def nextResume (c : Cause) (resume instruction : Word) (compressed : Bool) : Option Word :=
  if c.resumesInPlace then none
  else if compressed && instruction &&& 3#32 ≠ 3#32 then some (resume + 2#32)
  else some (resume + 4#32)

/-! ### The three views -/

/-- The slot is the cause without its stray bits. -/
theorem code_bits (c : Cause) : c.code.bits = c.bits &&& Code.validMask := Code.bits_ofWord c.bits

theorem isFatal_iff (c : Cause) :
    c.isFatal = true ↔ c.bits = 0#32 ∨ c.bits = 1#32 ∨ c.bits = 16#32 := by
  simp only [isFatal, matchesCode, Bool.or_eq_true, decide_eq_true_eq]
  change (c.bits = 1#32 ∨ c.bits = 0#32) ∨ c.bits = 16#32 ↔ _
  constructor
  · rintro ((h | h) | h) <;> simp [h]
  · rintro (h | h | h) <;> simp [h]

end Cause

end TrapDispatch
