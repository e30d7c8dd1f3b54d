import TrapDispatch.Word

/-!
Hexadecimal text. Two formats are in use: eight digits for a word (`padded`) and as many digits
as the number needs (`plain`), each with the mark `0x` and in either letter case. Main facts:
`length_fixed` (a fixed-width number has exactly the digits asked for) and `padded_upper` (which
digits a word has).
-/

namespace TrapDispatch.Hex

/-- Whether the digits above nine are written `a` to `f` or `A` to `F`. -/
inductive LetterCase where
  | lower
  | upper
  deriving DecidableEq, Repr

/-- The digit of a number below 16. -/
def digit : LetterCase → Nat → Char
  | .lower, n => Nat.digitChar n
  | .upper, n => (Nat.digitChar n).toUpper

/-- The last `places` digits of `n`, most significant first. -/
def fixed (letters : LetterCase) : (places : Nat) → (n : Nat) → List Char
  | 0, _ => []
  | places + 1, n => fixed letters places (n / 16) ++ [digit letters (n % 16)]

/-- A word as `0x` and eight digits. -/
def padded (letters : LetterCase) (w : Word) : String :=
  "0x" ++ String.ofList (fixed letters 8 w.toNat)

/-- A number as `0x` and its digits without leading zeros; zero has one digit. -/
def plain (letters : LetterCase) (n : Nat) : String :=
  let digits := Nat.toDigits 16 n
  "0x" ++ String.ofList (match letters with
    | .lower => digits
    | .upper => digits.map Char.toUpper)

/-- A fixed-width number has exactly the digits asked for. -/
theorem length_fixed (letters : LetterCase) (places n : Nat) :
    (fixed letters places n).length = places := by
  induction places generalizing n with
  | zero => rfl
  | succ places ih => simp [fixed, ih]

/-! ### The digits of a word -/

/-- The eight digits of a word in upper case, most significant first. -/
def upperDigits (w : Word) : String :=
  String.ofList <| (List.range 8).map fun place =>
    "0123456789ABCDEF".toList.getD ((w.toNat >>> (4 * (7 - place))) % 16) '0'

theorem digit_upper :
    ∀ d : Fin 16, digit .upper d = "0123456789ABCDEF".toList.getD d '0' := by
  decide +kernel

/-- A digit is the four bits in its place. -/
theorem fixed_eq (letters : LetterCase) (places n : Nat) :
    fixed letters places n = (List.range places).map fun place =>
      digit letters ((n >>> (4 * (places - 1 - place))) % 16) := by
  induction places generalizing n with
  | zero => rfl
  | succ places ih =>
      rw [fixed, ih, List.range_succ, List.map_append]
      congr 1
      · refine List.map_congr_left fun place inside => ?_
        have above : 4 + 4 * (places - 1 - place) = 4 * (places + 1 - 1 - place) := by
          have := List.mem_range.mp inside
          omega
        have shifted : n / 16 = n >>> 4 := (Nat.shiftRight_eq_div_pow n 4).symm
        rw [shifted, ← Nat.shiftRight_add, above]
      · simp

theorem padded_upper (w : Word) : padded .upper w = "0x" ++ upperDigits w := by
  unfold padded upperDigits
  rw [fixed_eq]
  congr 2
  refine List.map_congr_left fun place _ => ?_
  exact digit_upper ⟨_, Nat.mod_lt _ (by decide)⟩

end TrapDispatch.Hex
