import TrapDispatch.Word

/-!
Control and status registers of one hart, and the two ways in which software sets or clears bits
in them. Main facts: `get_set` and `get_write` (a write changes one register, and never the hart
id) and `setBits_eq`, `clearBits_eq` (both ways of changing bits have the same effect).
-/

namespace TrapDispatch

inductive Csr where
  | status
  | trapVector
  | interruptEnable
  | scratch
  | resumeAddress
  | cause
  | trapValue
  | trappedInstruction
  | hartId
  deriving DecidableEq, Repr

namespace Csr

def all : List Csr :=
  [.status, .trapVector, .interruptEnable, .scratch, .resumeAddress, .cause, .trapValue,
    .trappedInstruction, .hartId]

def name : Csr → String
  | .status => "Status"
  | .trapVector => "TrapVector"
  | .interruptEnable => "InterruptEnable"
  | .scratch => "Scratch"
  | .resumeAddress => "ResumeAddress"
  | .cause => "Cause"
  | .trapValue => "TrapValue"
  | .trappedInstruction => "TrappedInstruction"
  | .hartId => "HartId"

/-- The architectural register number. -/
def number : Csr → Nat
  | .status => 0x300
  | .interruptEnable => 0x304
  | .trapVector => 0x305
  | .scratch => 0x340
  | .resumeAddress => 0x341
  | .cause => 0x342
  | .trapValue => 0x343
  | .trappedInstruction => 0x34a
  | .hartId => 0xf14

end Csr

/-- The registers of one hart. -/
@[ext]
structure Csrs where
  status : Word
  trapVector : Word
  interruptEnable : Word
  scratch : Word
  resumeAddress : Word
  cause : Word
  trapValue : Word
  trappedInstruction : Word
  hartId : Word
  deriving DecidableEq, Repr

/-- How software changes single bits. -/
inductive BitAccess where
  /-- Read the register, change the bits and write it back. -/
  | readModifyWrite
  /-- Use the set and clear instructions where the register is reached by them. -/
  | bitInstructions
  deriving DecidableEq, Repr

namespace Csrs

/-- All registers zero except the hart id. -/
def initial (hartId : Word) : Csrs := ⟨0, 0, 0, 0, 0, 0, 0, 0, hartId⟩

def get (r : Csrs) : Csr → Word
  | .status => r.status
  | .trapVector => r.trapVector
  | .interruptEnable => r.interruptEnable
  | .scratch => r.scratch
  | .resumeAddress => r.resumeAddress
  | .cause => r.cause
  | .trapValue => r.trapValue
  | .trappedInstruction => r.trappedInstruction
  | .hartId => r.hartId

/-- The register as the hardware sets it, the hart id included. -/
def set (r : Csrs) (csr : Csr) (value : Word) : Csrs :=
  match csr with
  | .status => { r with status := value }
  | .trapVector => { r with trapVector := value }
  | .interruptEnable => { r with interruptEnable := value }
  | .scratch => { r with scratch := value }
  | .resumeAddress => { r with resumeAddress := value }
  | .cause => { r with cause := value }
  | .trapValue => { r with trapValue := value }
  | .trappedInstruction => { r with trappedInstruction := value }
  | .hartId => { r with hartId := value }

/-- A write by software; the hart id is read-only. -/
def write (r : Csrs) (csr : Csr) (value : Word) : Csrs :=
  match csr with
  | .hartId => r
  | csr => r.set csr value

/-- Set the bits of a mask. The set instruction is used for the status and interrupt-enable
registers; every other register is read, changed and written back. -/
def setBits (r : Csrs) (via : BitAccess) (csr : Csr) (mask : Word) : Csrs :=
  match via, csr with
  | .bitInstructions, .status => { r with status := r.status ||| mask }
  | .bitInstructions, .interruptEnable => { r with interruptEnable := r.interruptEnable ||| mask }
  | _, csr => r.write csr (r.get csr ||| mask)

/-- Clear the bits of a mask, by the instruction or by the detour as for `setBits`. -/
def clearBits (r : Csrs) (via : BitAccess) (csr : Csr) (mask : Word) : Csrs :=
  match via, csr with
  | .bitInstructions, .status => { r with status := r.status &&& ~~~mask }
  | .bitInstructions, .interruptEnable =>
    { r with interruptEnable := r.interruptEnable &&& ~~~mask }
  | _, csr => r.write csr (r.get csr &&& ~~~mask)

/-! ### Reading back -/

theorem get_set (r : Csrs) (c d : Csr) (v : Word) :
    (r.set c v).get d = if d = c then v else r.get d := by
  cases c <;> cases d <;> rfl

theorem get_write (r : Csrs) (c d : Csr) (v : Word) :
    (r.write c v).get d = if d = c ∧ c ≠ .hartId then v else r.get d := by
  cases c <;> cases d <;> rfl

/-- Registers are determined by what is read from them. -/
theorem ext_get {r s : Csrs} (h : ∀ c, r.get c = s.get c) : r = s := by
  apply Csrs.ext
  · exact h .status
  · exact h .trapVector
  · exact h .interruptEnable
  · exact h .scratch
  · exact h .resumeAddress
  · exact h .cause
  · exact h .trapValue
  · exact h .trappedInstruction
  · exact h .hartId

/-- Setting bits is a read, an or and a write, whichever way it is done. -/
theorem setBits_eq (r : Csrs) (via : BitAccess) (csr : Csr) (mask : Word) :
    r.setBits via csr mask = r.write csr (r.get csr ||| mask) := by
  cases via <;> cases csr <;> rfl

/-- Clearing bits is a read, a masking and a write, whichever way it is done. -/
theorem clearBits_eq (r : Csrs) (via : BitAccess) (csr : Csr) (mask : Word) :
    r.clearBits via csr mask = r.write csr (r.get csr &&& ~~~mask) := by
  cases via <;> cases csr <;> rfl

end Csrs

end TrapDispatch
