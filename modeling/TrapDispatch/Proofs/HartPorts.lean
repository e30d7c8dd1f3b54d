import TrapDispatch.Proofs.Actions

/-!
The two ports through which a runtime reaches a hart.

* `Port.simulated`: the simulated hart, which changes bits by reading, changing and writing back.
* `Port.native`: the hart that the code runs on, reached by instructions that name a register by its
  number, with instructions of their own for the bits of two registers.
* `change_number`: what an instruction does to the register that it names.
* `simulated_faithful`, `native_faithful`: through either port every primitive is the action on the
  hart that it stands for. Only accesses to memory that are not aligned are told apart.
-/

namespace TrapDispatch

/-- What a runtime asks of a hart. -/
structure Port where
  read : Csr → Act Word
  write : Csr → Word → Act Unit
  setBits : Csr → Word → Act Unit
  clearBits : Csr → Word → Act Unit
  load : Nat → Act Word
  store : Nat → Word → Act Unit
  fence : Act Unit
  halt : Act Unit

/-- A port that reaches the hart: each of its primitives does what the action of that name does,
whichever way the action changes bits. Of addresses that are not multiples of four nothing is
asked. -/
structure Port.Faithful (p : Port) : Prop where
  read (csr : Csr) : p.read csr = Act.read csr
  write (csr : Csr) (value : Word) : p.write csr value = Act.write csr value
  setBits (via : BitAccess) (csr : Csr) (mask : Word) : p.setBits csr mask = Act.setBits via csr mask
  clearBits (via : BitAccess) (csr : Csr) (mask : Word) :
    p.clearBits csr mask = Act.clearBits via csr mask
  load (address : Nat) (aligned : address % 4 = 0) : p.load address = Act.load address
  store (address : Nat) (aligned : address % 4 = 0) (value : Word) :
    p.store address value = Act.store address value
  fence : p.fence = Act.fence
  halt : p.halt = Act.halt

/-! ### The simulated hart -/

/-- The simulated hart. Its bits are changed the way that every hart offers unless it has a better
one. -/
def Port.simulated : Port where
  read := Act.read
  write := Act.write
  setBits csr mask := do Act.write csr ((← Act.read csr) ||| mask)
  clearBits csr mask := do Act.write csr ((← Act.read csr) &&& ~~~mask)
  load := Act.load
  store := Act.store
  fence := Act.fence
  halt := Act.halt

theorem Port.simulated_faithful : Port.simulated.Faithful where
  read _ := rfl
  write _ _ := rfl
  setBits via csr mask := (Act.setBits_eq via csr mask).symm
  clearBits via csr mask := (Act.clearBits_eq via csr mask).symm
  load _ _ := rfl
  store _ _ _ := rfl
  fence := rfl
  halt := rfl

/-! ### Instructions on registers -/

/-- The register with a number, if it is one of these. -/
def Csr.ofNumber? (number : Nat) : Option Csr := Csr.all.find? fun csr => csr.number == number

/-- The two highest of its twelve bits tell whether a number stands for a register that cannot be
written. -/
def Csr.isReadOnly (number : Nat) : Bool := number / 0x400 == 3

/-- Different registers have different numbers. -/
theorem Csr.ofNumber?_number (csr : Csr) : Csr.ofNumber? csr.number = some csr := by
  cases csr <;> rfl

namespace Instruction

/-- Read the register with a number. -/
def csrr (number : Nat) : Act Word := do
  match Csr.ofNumber? number with
  | some csr => return (← get).hart.csrs.get csr
  | none => return 0#32

/-- Change the register with a number, every bit of it, unless it cannot be written. -/
def change (number : Nat) (f : Word → Word) : Act Unit :=
  match Csr.ofNumber? number with
  | some csr =>
    if Csr.isReadOnly number then pure () else Act.modifyHart fun h => h.poke csr (f (h.csrs.get csr))
  | none => pure ()

/-- Write a register. -/
def csrw (number : Nat) (value : Word) : Act Unit := change number fun _ => value

/-- Set the bits of a mask in a register. -/
def csrs (number : Nat) (mask : Word) : Act Unit := change number (· ||| mask)

/-- Clear the bits of a mask in a register. -/
def csrc (number : Nat) (mask : Word) : Act Unit := change number (· &&& ~~~mask)

theorem csrr_number (csr : Csr) : csrr csr.number = Act.read csr := by
  unfold csrr
  rw [Csr.ofNumber?_number]
  rfl

/-- An instruction that names a register changes it as software does: all but the hart id. -/
theorem change_number (csr : Csr) (f : Word → Word) :
    change csr.number f = Act.modifyHart fun h => h.write csr (f (h.read csr)) := by
  unfold change
  rw [Csr.ofNumber?_number]
  cases csr <;> rfl

end Instruction

/-! ### The hart that the code runs on -/

open Instruction

/-- What memory does at addresses that are not multiples of four. -/
structure Unaligned where
  load : Nat → Act Word
  store : Nat → Word → Act Unit

namespace Native

/-- Write a register by the instruction that names it; the hart id is not written. -/
def writeCsr : Csr → Word → Act Unit
  | .hartId, _ => pure ()
  | csr, value => csrw csr.number value

/-- The status register and the interrupt enables have their bits changed by one instruction; every
other register is read, changed and written back. -/
def changeCsrBits (instruction : Nat → Act Unit) (f : Word → Word) : Csr → Act Unit
  | .status => instruction Csr.status.number
  | .interruptEnable => instruction Csr.interruptEnable.number
  | csr => do writeCsr csr (f (← csrr csr.number))

def setCsrBits (csr : Csr) (mask : Word) : Act Unit := changeCsrBits (csrs · mask) (· ||| mask) csr

def clearCsrBits (csr : Csr) (mask : Word) : Act Unit :=
  changeCsrBits (csrc · mask) (· &&& ~~~mask) csr

theorem writeCsr_eq (csr : Csr) (value : Word) : writeCsr csr value = Act.write csr value := by
  have named : csrw csr.number value = Act.write csr value := change_number csr fun _ => value
  cases csr with
  | hartId => rfl
  | _ => exact named

/-- Written differently for two registers, a change of bits is the same for all: a read, the change and
a write. -/
theorem changeCsrBits_eq (f : Word → Word) (csr : Csr) :
    changeCsrBits (change · f) f csr = Act.modifyHart fun h => h.write csr (f (h.read csr)) := by
  have detour : (do writeCsr csr (f (← csrr csr.number))) =
      Act.modifyHart fun h => h.write csr (f (h.read csr)) := by
    simp only [csrr_number, writeCsr_eq]
    rfl
  cases csr with
  | status => exact change_number .status f
  | interruptEnable => exact change_number .interruptEnable f
  | _ => exact detour

end Native

namespace Port

/-- The hart that the code runs on. Aligned loads and stores reach its memory as it is, and waiting for
interrupts that never come stops it for good. -/
def native (unaligned : Unaligned) : Port where
  read csr := csrr csr.number
  write := Native.writeCsr
  setBits := Native.setCsrBits
  clearBits := Native.clearCsrBits
  load address :=
    if address % 4 = 0 then return (← get).hart.memory.read address else unaligned.load address
  store address value :=
    if address % 4 = 0 then
      Act.modifyHart fun h => { h with memory := h.memory.write address value }
    else unaligned.store address value
  fence := Act.fence
  halt := Act.halt

theorem native_faithful (unaligned : Unaligned) : (native unaligned).Faithful where
  read := csrr_number
  write := Native.writeCsr_eq
  setBits via csr mask :=
    (Native.changeCsrBits_eq (· ||| mask) csr).trans (Act.setBits_eq via csr mask).symm
  clearBits via csr mask :=
    (Native.changeCsrBits_eq (· &&& ~~~mask) csr).trans (Act.clearBits_eq via csr mask).symm
  load address aligned := by
    funext m
    rw [Act.load_apply, if_pos aligned]
    exact congrFun (if_pos aligned) m
  store address aligned value := by
    funext m
    rw [Act.store_apply, if_pos aligned]
    exact congrFun (if_pos aligned) m
  fence := rfl
  halt := rfl

/-- The port that goes with a way of changing bits. -/
def ofAccess (unaligned : Unaligned) : BitAccess → Port
  | .readModifyWrite => simulated
  | .bitInstructions => native unaligned

theorem ofAccess_faithful (unaligned : Unaligned) (via : BitAccess) :
    (ofAccess unaligned via).Faithful := by
  cases via with
  | readModifyWrite => exact simulated_faithful
  | bitInstructions => exact native_faithful unaligned

end Port

end TrapDispatch
