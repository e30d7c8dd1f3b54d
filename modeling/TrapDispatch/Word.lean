/-!
Machine words and bytes. A word is 32 bits wide and its arithmetic wraps; a byte is one unit of
text or one device register. Main facts: `getLsbD_bit` (the word `bit i` has bit `i` set and no
other) and `toNat_and_low5` (masking with five ones keeps the low five bits).
-/

namespace TrapDispatch

/-- A 32-bit machine word. -/
abbrev Word := BitVec 32

/-- One byte of text, or one 8-bit device register. -/
abbrev Byte := UInt8

namespace Word

/-- The word whose only set bit is bit `i`. -/
def bit (i : Fin 32) : Word := 1#32 <<< i.val

/-- The low five bits of a word, as a number below 32. -/
def low5 (w : Word) : Fin 32 := ⟨w.toNat % 32, Nat.mod_lt _ (by decide)⟩

/-- Bit `i` is the only bit of `bit i`. -/
theorem getLsbD_bit (i : Fin 32) (j : Nat) : (bit i).getLsbD j = decide (j = i.val) := by
  have hi := i.isLt
  simp only [bit, BitVec.getLsbD_shiftLeft, BitVec.getLsbD_one]
  by_cases h : j = i.val
  · subst h; simp [hi]
  · simp only [h, decide_false]
    by_cases hj : j < i.val
    · simp [hj]
    · simp [show ¬ j - i.val = 0 by omega]

/-- Masking a word keeps its low five bits. -/
theorem toNat_and_low5 (w : Word) : (w &&& 0x1f#32).toNat = (low5 w).val := by
  simp only [low5, BitVec.toNat_and, BitVec.toNat_ofNat]
  exact Nat.and_two_pow_sub_one_eq_mod w.toNat 5

end Word

end TrapDispatch
