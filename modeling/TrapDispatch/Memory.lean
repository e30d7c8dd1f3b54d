import TrapDispatch.Word

/-!
Sparse word memory. A word is kept under the address of its first byte; addresses are natural
numbers, so an offset from a base near the top of the address space does not wrap. Main facts:
`read_write` (a write changes one address) and `read_writeWords_mem`, `read_writeWords_of_ne`
(consecutive words are found where they were put, and nothing else changes).
-/

namespace TrapDispatch

/-- The word held at each address; an address never written holds zero. -/
@[ext]
structure Memory where
  read : Nat → Word

namespace Memory

def empty : Memory := ⟨fun _ => 0#32⟩

def write (m : Memory) (address : Nat) (value : Word) : Memory :=
  ⟨fun a => if a = address then value else m.read a⟩

/-- Consecutive words from an address upwards. -/
def writeWords (m : Memory) (address : Nat) : List Word → Memory
  | [] => m
  | w :: ws => (m.write address w).writeWords (address + 4) ws

theorem read_write (m : Memory) (a b : Nat) (v : Word) :
    (m.write a v).read b = if b = a then v else m.read b := rfl

/-- Writing consecutive words leaves every other address alone. -/
theorem read_writeWords_of_ne {m : Memory} {base a : Nat} {ws : List Word}
    (h : ∀ i < ws.length, a ≠ base + 4 * i) : (m.writeWords base ws).read a = m.read a := by
  induction ws generalizing m base with
  | nil => rfl
  | cons w ws ih =>
    have head : a ≠ base := by simpa using h 0 (by simp)
    rw [writeWords, ih, read_write, if_neg head]
    intro i hi
    have := h (i + 1) (by simpa using hi)
    omega

/-- Written words are found in order. -/
theorem read_writeWords_mem (m : Memory) (base : Nat) (ws : List Word) (i : Nat)
    (h : i < ws.length) : (m.writeWords base ws).read (base + 4 * i) = ws[i] := by
  induction ws generalizing m base i with
  | nil => simp at h
  | cons w ws ih =>
    cases i with
    | zero =>
      rw [writeWords, read_writeWords_of_ne (by intros; omega), read_write, if_pos (by omega)]
      rfl
    | succ i =>
      rw [writeWords, show base + 4 * (i + 1) = base + 4 + 4 * i by omega,
        ih _ _ _ (by simpa using h)]
      rfl

end Memory

end TrapDispatch
