import TrapDispatch.Csr
import TrapDispatch.Fault
import TrapDispatch.Frame

/-!
One hart: its registers, its word memory and the number of fences that it has executed. Loads and
stores refuse an address that is not a multiple of four, before they change anything.
-/

namespace TrapDispatch

@[ext]
structure Hart where
  csrs : Csrs
  memory : Memory
  fences : Nat

namespace Hart

/-- A hart out of reset. -/
def initial (hartId : Word) : Hart := ⟨.initial hartId, .empty, 0⟩

/-- A register as software reads it. -/
def read (h : Hart) (csr : Csr) : Word := h.csrs.get csr

/-- A write by software; the hart id is read-only. -/
def write (h : Hart) (csr : Csr) (value : Word) : Hart := { h with csrs := h.csrs.write csr value }

/-- A register as the hardware sets it, the hart id included. -/
def poke (h : Hart) (csr : Csr) (value : Word) : Hart := { h with csrs := h.csrs.set csr value }

def setBits (h : Hart) (via : BitAccess) (csr : Csr) (mask : Word) : Hart :=
  { h with csrs := h.csrs.setBits via csr mask }

def clearBits (h : Hart) (via : BitAccess) (csr : Csr) (mask : Word) : Hart :=
  { h with csrs := h.csrs.clearBits via csr mask }

def load (h : Hart) (address : Nat) : Except Fault Word :=
  if address % 4 = 0 then .ok (h.memory.read address) else .error (.unalignedLoad address)

def store (h : Hart) (address : Nat) (value : Word) : Except Fault Hart :=
  if address % 4 = 0 then .ok { h with memory := h.memory.write address value }
  else .error (.unalignedStore address)

/-- Order all earlier accesses before all later ones. -/
def fence (h : Hart) : Hart := { h with fences := h.fences + 1 }

/-- The registers that the hardware loads when it takes a trap. -/
def raise (h : Hart) (cause resume : Word) : Hart :=
  (h.poke .cause cause).poke .resumeAddress resume

/-- Lay out a frame and point the scratch register at it. -/
def pushFrame (h : Hart) (base : Nat) (x : Frame) : Hart :=
  { h with memory := h.memory.writeFrame base x }.poke .scratch (BitVec.ofNat 32 base)

end Hart

end TrapDispatch
