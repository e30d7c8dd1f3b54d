import TrapDispatch.Hex

/-!
Trap codes. A code names one slot of the vector table by a direction and an index below 32. Its
encoding keeps the direction in bit 31 and the index in the low five bits; a word with any other
bit set encodes no code. Main facts: `ofWord_bits` (decoding undoes encoding), `bits_ofWord`
(decoding a word keeps exactly the meaningful bits) and `ofBits_eq_ok_iff` (a word is accepted
exactly when it is the encoding of the answer).
-/

namespace TrapDispatch

/-- Whether a trap is raised by the running instruction or by an outside event. -/
inductive Direction where
  | exception
  | interrupt
  deriving DecidableEq, Repr

namespace Direction

def name : Direction → String
  | .exception => "Exception"
  | .interrupt => "Interrupt"

/-- The row of the vector table. -/
def row : Direction → Nat
  | .exception => 0
  | .interrupt => 1

/-- The contribution of the direction to an encoded code. -/
def bits : Direction → Word
  | .exception => 0#32
  | .interrupt => 0x80000000#32

/-- The direction in bit 31 of a word. -/
def ofWord (w : Word) : Direction :=
  if w &&& 0x80000000#32 = 0#32 then .exception else .interrupt

end Direction

/-- Slots in one direction. -/
def trapSlots : Nat := 32

/-- Slots in both directions. -/
def trapCount : Nat := 2 * trapSlots

/-- The first interrupt index of the fast interrupt lines. -/
def fastIrqBase : Nat := 16

/-- The number of fast interrupt lines. -/
def fastIrqCount : Nat := 16

/-- A trap code: one slot of the vector table. -/
structure Code where
  direction : Direction
  index : Fin 32
  deriving DecidableEq, Repr

/-- A word that encodes no code. -/
structure InvalidCode where
  bits : Word
  deriving DecidableEq, Repr

namespace InvalidCode

def message (e : InvalidCode) : String :=
  "Invalid trap code " ++ Hex.padded .lower e.bits ++ "."

/-- The short form for developers, with the word in decimal. -/
def describe (e : InvalidCode) : String :=
  "InvalidTrapCode(" ++ toString e.bits.toNat ++ ")"

end InvalidCode

namespace Code

def interruptBit : Word := 0x80000000#32

def indexMask : Word := 0x1f#32

/-- The bits that a code may use. -/
def validMask : Word := interruptBit ||| indexMask

/-- A code from a direction and the low five bits of any word. -/
def new (direction : Direction) (index : Word) : Code := ⟨direction, Word.low5 index⟩

def exception (index : Word) : Code := new .exception index

def interrupt (index : Word) : Code := new .interrupt index

/-- The code of a fast interrupt line; only the low four bits of the channel count. -/
def fastIrq (channel : Word) : Code := interrupt (16#32 + (channel &&& 15#32))

/-- The encoding of a code. -/
def bits (c : Code) : Word := c.direction.bits ||| BitVec.ofNat 32 c.index.val

/-- The code that a word selects when its other bits are ignored. -/
def ofWord (w : Word) : Code := ⟨.ofWord w, Word.low5 w⟩

/-- The code that a word encodes; refuses a word with a bit set outside the two fields. -/
def ofBits (w : Word) : Except InvalidCode Code :=
  if w &&& ~~~validMask = 0#32 then .ok (ofWord w) else .error ⟨w⟩

def isInterrupt (c : Code) : Bool := c.direction = .interrupt

/-- The developer's form, such as `TrapCode(Interrupt, 7)`. -/
def describe (c : Code) : String :=
  "TrapCode(" ++ c.direction.name ++ ", " ++ toString c.index.val ++ ")"

def instructionMisaligned : Code := ⟨.exception, 0⟩
def instructionAccessFault : Code := ⟨.exception, 1⟩
def illegalInstruction : Code := ⟨.exception, 2⟩
def breakpoint : Code := ⟨.exception, 3⟩
def loadMisaligned : Code := ⟨.exception, 4⟩
def loadAccessFault : Code := ⟨.exception, 5⟩
def storeMisaligned : Code := ⟨.exception, 6⟩
def storeAccessFault : Code := ⟨.exception, 7⟩
def userEnvCall : Code := ⟨.exception, 8⟩
def machineEnvCall : Code := ⟨.exception, 11⟩
def doubleTrap : Code := ⟨.exception, 16⟩
def machineSoftware : Code := ⟨.interrupt, 3⟩
def machineTimer : Code := ⟨.interrupt, 7⟩
def machineExternal : Code := ⟨.interrupt, 11⟩

/-- All codes in table order: the exceptions by index, then the interrupts by index. -/
def all : List Code :=
  (List.finRange 32).map (⟨.exception, ·⟩) ++ (List.finRange 32).map (⟨.interrupt, ·⟩)

/-! ### Encoding and decoding -/

theorem low5_bits (c : Code) : Word.low5 c.bits = c.index := by
  obtain ⟨d, i, hi⟩ := c
  apply Fin.ext
  rw [← Word.toNat_and_low5]
  cases d <;> simp only [bits, Direction.bits, BitVec.toNat_and, BitVec.toNat_or,
    BitVec.toNat_ofNat, Nat.and_or_distrib_right, Nat.mod_eq_of_lt (show i < 2 ^ 32 by omega)]
  all_goals simpa using (Nat.and_two_pow_sub_one_eq_mod i 5).trans (Nat.mod_eq_of_lt hi)

theorem direction_bits (c : Code) : Direction.ofWord c.bits = c.direction := by
  obtain ⟨d, i⟩ := c
  cases d <;> revert i <;> decide

/-- Decoding undoes encoding. -/
@[simp] theorem ofWord_bits (c : Code) : ofWord c.bits = c := by
  simp [ofWord, low5_bits, direction_bits]

/-- Distinct codes have distinct encodings. -/
theorem bits_injective {c d : Code} (h : c.bits = d.bits) : c = d := by
  rw [← ofWord_bits c, h, ofWord_bits]

theorem bits_eq_and (w : Word) :
    (Direction.ofWord w).bits = w &&& 0x80000000#32 := by
  apply BitVec.eq_of_getLsbD_eq
  intro i hi
  unfold Direction.ofWord
  split
  · rename_i h
    simp [Direction.bits, h]
  · rename_i h
    have hw : w.getLsbD 31 = true := by
      apply Decidable.byContradiction
      intro hn
      apply h
      apply BitVec.eq_of_getLsbD_eq
      intro j hj
      have : (0x80000000#32).getLsbD j = decide (j = 31) := by
        revert j; decide
      by_cases hj' : j = 31
      · subst hj'; simp_all
      · simp [this, hj']
    have : (0x80000000#32).getLsbD i = decide (i = 31) := by
      revert i; decide
    by_cases hi' : i = 31
    · subst hi'; simp [Direction.bits, hw]
    · simp [Direction.bits, this, hi']

/-- Decoding a word keeps exactly the meaningful bits. -/
theorem bits_ofWord (w : Word) : (ofWord w).bits = w &&& validMask := by
  have hlow : BitVec.ofNat 32 (Word.low5 w).val = w &&& indexMask := by
    apply BitVec.eq_of_toNat_eq
    rw [indexMask, Word.toNat_and_low5, BitVec.toNat_ofNat]
    exact Nat.mod_eq_of_lt (by have := (Word.low5 w).isLt; omega)
  rw [bits, ofWord, hlow, bits_eq_and, validMask, interruptBit, indexMask]
  exact (BitVec.and_or_distrib_left ..).symm

/-- A word has no bit outside the two fields exactly when masking leaves it alone. -/
theorem and_validMask_eq_iff (w : Word) : w &&& ~~~validMask = 0#32 ↔ w &&& validMask = w := by
  constructor
  · intro h
    have : w = (w &&& validMask) ||| (w &&& ~~~validMask) := by
      rw [← BitVec.and_or_distrib_left, show validMask ||| ~~~validMask = BitVec.allOnes 32 by decide,
        BitVec.and_allOnes]
    rw [h] at this
    simpa using this.symm
  · intro h
    rw [← h, BitVec.and_assoc]; simp

/-- A word is accepted exactly when it is the encoding of the answer. -/
theorem ofBits_eq_ok_iff {w : Word} {c : Code} : ofBits w = .ok c ↔ w = c.bits := by
  unfold ofBits
  constructor
  · intro h
    split at h
    · rename_i hw
      cases h
      rw [bits_ofWord, (and_validMask_eq_iff w).1 hw]
    · cases h
  · rintro rfl
    rw [if_pos]
    · simp
    · rw [and_validMask_eq_iff, ← bits_ofWord, ofWord_bits]

@[simp] theorem ofBits_bits (c : Code) : ofBits c.bits = .ok c := ofBits_eq_ok_iff.2 rfl

/-- Every code is listed. -/
theorem mem_all (c : Code) : c ∈ all := by
  obtain ⟨d, i⟩ := c
  cases d <;> simp [all]

end Code

end TrapDispatch
