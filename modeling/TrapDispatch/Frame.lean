import TrapDispatch.Config
import TrapDispatch.Memory

/-!
Trap frames: the registers of an interrupted program, one word each in order of register number,
laid out in memory just below the interrupted stack pointer. Main facts: `slotOffset_lt` (a slot
lies inside the frame, whatever the register number) and `frame_writeFrame` (a stored frame is read
back as it was).
-/

namespace TrapDispatch

/-- The registers `x0` to `x31` of an interrupted program. -/
abbrev Frame := Vector Word 32

namespace Frame

/-- The size of a frame in bytes. -/
def size : Nat := 4 * frameRegisters

/-- The register number of the stack pointer. -/
def stackPointer : Nat := 2

/-- The register number of the first argument. -/
def a0 : Nat := 10

def zero : Frame := Vector.replicate 32 0#32

/-- Registers from a list; the missing ones are zero. -/
def ofList (words : List Word) : Frame := Vector.ofFn fun i => words.getD i.val 0#32

/-- The register `x0` always reads zero. -/
def hardwireZero (x : Frame) : Frame := x.set 0 0#32

/-- The byte offset of a register in a frame with so many slots. The register number is masked, so
the slot lies inside the frame. -/
def slotOffset (register : Word) (registers : Nat) : Nat :=
  (register.toNat &&& (registers - 1)) * 4

theorem slotOffset_lt (register : Word) {registers : Nat} (h : 0 < registers) :
    slotOffset register registers < registers * 4 := by
  have := Nat.and_le_right (n := register.toNat) (m := registers - 1)
  simp only [slotOffset]
  omega

end Frame

namespace Memory

/-- Lay a frame out from an address upwards. -/
def writeFrame (m : Memory) (base : Nat) (x : Frame) : Memory := m.writeWords base x.toList

/-- The frame that starts at an address. -/
def frame (m : Memory) (base : Nat) : Frame := Vector.ofFn fun i => m.read (base + 4 * i.val)

/-- A stored frame is read back as it was. -/
theorem frame_writeFrame (m : Memory) (base : Nat) (x : Frame) :
    (m.writeFrame base x).frame base = x := by
  apply Vector.ext
  intro i hi
  simp only [frame, Vector.getElem_ofFn, writeFrame]
  rw [read_writeWords_mem _ _ _ _ (by simpa using hi)]
  simp

end Memory

end TrapDispatch
