import TrapDispatch.Code
import TrapDispatch.Handler

/-!
The vector table: one slot for every trap code, empty or holding a handler, in two rows of 32.
Main facts: `get_empty`, `get_install` (an install changes the slot of its code and no other) and
`get_fill` (a fill reaches every slot).
-/

namespace TrapDispatch

structure VectorTable where
  exceptions : Vector (Option Handler) 32
  interrupts : Vector (Option Handler) 32
  deriving DecidableEq, Repr

namespace VectorTable

/-- Every slot the same. -/
def uniform (slot : Option Handler) : VectorTable :=
  ⟨Vector.replicate 32 slot, Vector.replicate 32 slot⟩

def empty : VectorTable := uniform none

def get (t : VectorTable) (c : Code) : Option Handler :=
  match c.direction with
  | .exception => getElem t.exceptions c.index.val c.index.isLt
  | .interrupt => getElem t.interrupts c.index.val c.index.isLt

/-- Put a handler into the slot of a code, or empty the slot. -/
def install (t : VectorTable) (c : Code) (slot : Option Handler) : VectorTable :=
  match c.direction with
  | .exception => { t with exceptions := t.exceptions.set c.index.val slot c.index.isLt }
  | .interrupt => { t with interrupts := t.interrupts.set c.index.val slot c.index.isLt }

/-- Put one handler into every slot, whatever they held. -/
def fill (_ : VectorTable) (h : Handler) : VectorTable := uniform (some h)

/-! ### Looking up -/

@[simp] theorem get_uniform (slot : Option Handler) (c : Code) : (uniform slot).get c = slot := by
  unfold get uniform
  split <;> simp

@[simp] theorem get_empty (c : Code) : empty.get c = none := get_uniform none c

@[simp] theorem get_fill (t : VectorTable) (h : Handler) (c : Code) : (t.fill h).get c = some h :=
  get_uniform (some h) c

theorem get_install (t : VectorTable) (c d : Code) (slot : Option Handler) :
    (t.install c slot).get d = if d = c then slot else t.get d := by
  obtain ⟨cd, ci⟩ := c
  obtain ⟨dd, di⟩ := d
  cases cd <;> cases dd <;>
    simp [install, get, Vector.getElem_set, Fin.val_inj, eq_comm]

/-- Tables are determined by their slots. -/
theorem ext_get {s t : VectorTable} (h : ∀ c, s.get c = t.get c) : s = t := by
  obtain ⟨se, si⟩ := s
  obtain ⟨te, ti⟩ := t
  congr 1
  · apply Vector.ext
    intro i hi
    exact h ⟨.exception, ⟨i, hi⟩⟩
  · apply Vector.ext
    intro i hi
    exact h ⟨.interrupt, ⟨i, hi⟩⟩

end VectorTable

end TrapDispatch
