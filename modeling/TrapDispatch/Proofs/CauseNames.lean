import Mathlib.Algebra.Group.Nat.Defs
import TrapDispatch.Proofs.Dispatch

/-!
The name of a cause in a report tells the cause, all of its 32 bits.

* `Hex.padded_injective`: a word is known by its eight hexadecimal digits.
* `Cause.named`: the name of a cause has one of three shapes, and each shape says something about the
  cause.
* `Cause.text_name_injective`: the three shapes begin differently, and within each of them the name
  tells the cause. A cause with stray bits is never printed like a title or a fast interrupt line.
-/

namespace TrapDispatch

/-! ### Hexadecimal digits -/

namespace Hex

variable {letters : LetterCase}

theorem digit_injective : ∀ (letters : LetterCase) (n m : Fin 16),
    digit letters n = digit letters m → n = m := by
  intro letters
  cases letters <;> decide

/-- The digits written out of a number tell it up to the digits that were left out. -/
theorem mod_eq_of_fixed_eq {places n m : Nat} (same : fixed letters places n = fixed letters places m) :
    n % 16 ^ places = m % 16 ^ places := by
  induction places generalizing n m with
  | zero => rw [Nat.pow_zero, Nat.mod_one, Nat.mod_one]
  | succ places ih =>
      obtain ⟨high, low⟩ := List.append_inj' same rfl
      have last : n % 16 = m % 16 := congrArg Fin.val
        (digit_injective letters ⟨n % 16, Nat.mod_lt _ (by decide)⟩ ⟨m % 16, Nat.mod_lt _ (by decide)⟩
          (List.cons.inj low).1)
      rw [Nat.pow_succ', Nat.mod_mul, Nat.mod_mul, last, ih high]

theorem padded_injective (letters : LetterCase) : Function.Injective (padded letters) := by
  intro v w same
  have digits : fixed letters 8 v.toNat = fixed letters 8 w.toNat :=
    String.ofList_injective ((String.append_right_inj "0x").mp same)
  have bound (w : Word) : w.toNat < 16 ^ 8 := w.isLt
  have value := mod_eq_of_fixed_eq digits
  apply BitVec.eq_of_toNat_eq
  rwa [Nat.mod_eq_of_lt (bound v), Nat.mod_eq_of_lt (bound w)] at value

theorem mem_fixed {places n : Nat} {c : Char} (member : c ∈ fixed letters places n) :
    ∃ d : Fin 16, c = digit letters d := by
  induction places generalizing n with
  | zero => cases member
  | succ places ih =>
      rcases List.mem_append.mp member with high | low
      · exact ih high
      · exact ⟨⟨n % 16, Nat.mod_lt _ (by decide)⟩, List.mem_singleton.mp low⟩

theorem toList_padded (w : Word) :
    (padded letters w).toList = "0x".toList ++ fixed letters 8 w.toNat :=
  String.toList_append.trans (congrArg ("0x".toList ++ ·) String.toList_ofList)

@[simp] theorem length_padded (w : Word) : (padded letters w).toList.length = 10 := by
  have mark : "0x".toList.length = 2 := by decide +kernel
  rw [toList_padded, List.length_append, length_fixed, mark]

/-- A number below 16 has one digit. -/
theorem toList_plain_of_lt (d : Fin 16) :
    (plain .upper d.val).toList = "0x".toList ++ [digit .upper d.val] := by
  unfold plain
  rw [Nat.toDigits_of_lt_base d.isLt, String.toList_append]
  exact congrArg ("0x".toList ++ ·) String.toList_ofList

theorem at_notMem_mark : '@' ∉ "0x".toList := by decide +kernel

theorem at_ne_digit : ∀ d : Fin 16, '@' ≠ digit .upper d := by decide

theorem at_notMem_padded (w : Word) : '@' ∉ (padded .upper w).toList := by
  intro member
  rw [toList_padded, List.mem_append] at member
  obtain ⟨d, equal⟩ := mem_fixed (member.resolve_left at_notMem_mark)
  exact at_ne_digit d equal

end Hex

/-! ### The name of a cause -/

namespace Code

/-- The codes that have a title. -/
def titled : List Code := all.filter fun c => c.title.isSome

theorem mem_titled {c : Code} {text : String} (h : c.title = some text) : c ∈ titled := by
  refine List.mem_filter.mpr ⟨mem_all c, ?_⟩
  rw [h]
  rfl

/-- Codes with the same title are the same. -/
theorem title_injective {c d : Code} {text : String} (hc : c.title = some text)
    (hd : d.title = some text) : c = d := by
  have each : ∀ c ∈ titled, ∀ d ∈ titled, c.title = d.title → c = d := by decide +kernel
  exact each c (mem_titled hc) d (mem_titled hd) (hc.trans hd.symm)

/-- A title begins with none of the letters that the other names begin with, and it has no sign for
an address. -/
theorem title_letters {c : Code} {text : String} (h : c.title = some text) :
    text.toList.head? ≠ some 'F' ∧ text.toList.head? ≠ some 'U' ∧ '@' ∉ text.toList := by
  have each : ∀ c ∈ titled, ∀ text ∈ c.title,
      text.toList.head? ≠ some 'F' ∧ text.toList.head? ≠ some 'U' ∧ '@' ∉ text.toList := by
    decide +kernel
  exact each c (mem_titled h) text h

end Code

namespace CauseName

theorem toList_text_fastIrq (channel : Nat) :
    (fastIrq channel).text.toList = "Fast IRQ ".toList ++ (Hex.plain .upper channel).toList :=
  String.toList_append

theorem toList_text_unknown (bits : Word) :
    (unknown bits).text.toList =
      "Unknown trap cause ".toList ++ (Hex.padded .upper bits).toList :=
  String.toList_append

theorem head_fastIrq (channel : Nat) : (fastIrq channel).text.toList.head? = some 'F' := by
  have head : "Fast IRQ ".toList.head? = some 'F' := by decide +kernel
  rw [toList_text_fastIrq, List.head?_append, head]
  rfl

theorem head_unknown (bits : Word) : (unknown bits).text.toList.head? = some 'U' := by
  have head : "Unknown trap cause ".toList.head? = some 'U' := by decide +kernel
  rw [toList_text_unknown, List.head?_append, head]
  rfl

/-- A title is no fast interrupt line. -/
theorem title_ne_fastIrq {c : Code} {title : String} (titled : c.title = some title)
    (channel : Nat) : (named title).text ≠ (fastIrq channel).text := by
  intro same
  have head := head_fastIrq channel
  rw [← same] at head
  exact (Code.title_letters titled).1 head

/-- A title is not the raw value of any cause. -/
theorem title_ne_unknown {c : Code} {title : String} (titled : c.title = some title) (bits : Word) :
    (named title).text ≠ (unknown bits).text := by
  intro same
  have head := head_unknown bits
  rw [← same] at head
  exact (Code.title_letters titled).2.1 head

/-- Neither is a fast interrupt line. -/
theorem fastIrq_ne_unknown (channel : Nat) (bits : Word) :
    (fastIrq channel).text ≠ (unknown bits).text := by
  intro same
  have head := head_fastIrq channel
  rw [same, head_unknown] at head
  cases head

/-- The sixteen fast lines are told apart by their channel. -/
theorem fastIrq_injective {channel channel' : Fin 16}
    (same : (fastIrq channel.val).text = (fastIrq channel'.val).text) : channel = channel' := by
  have digits := congrArg String.toList same
  rw [toList_text_fastIrq, toList_text_fastIrq, Hex.toList_plain_of_lt,
    Hex.toList_plain_of_lt] at digits
  have digit := List.append_cancel_left (List.append_cancel_left digits)
  exact Hex.digit_injective .upper channel channel' (List.cons.inj digit).1

theorem at_notMem_fastIrq (channel : Fin 16) : '@' ∉ (fastIrq channel.val).text.toList := by
  have words : '@' ∉ "Fast IRQ ".toList := by decide +kernel
  rw [toList_text_fastIrq, Hex.toList_plain_of_lt, List.mem_append, List.mem_append,
    List.mem_singleton, not_or, not_or]
  exact ⟨words, Hex.at_notMem_mark, Hex.at_ne_digit channel⟩

theorem at_notMem_unknown (bits : Word) : '@' ∉ (unknown bits).text.toList := by
  have words : '@' ∉ "Unknown trap cause ".toList := by decide +kernel
  rw [toList_text_unknown, List.mem_append, not_or]
  exact ⟨words, Hex.at_notMem_padded bits⟩

end CauseName

namespace Cause

/-- The three shapes of names, with what each says about its cause. -/
inductive Named (c : Cause) : Prop where
  /-- The cause is a code with a title. -/
  | title {text : String} (encodes : c.bits = c.code.bits) (titled : c.code.title = some text)
      (name : c.name = .named text)
  /-- The cause is the code of a fast interrupt line. -/
  | fastIrq (channel : Fin 16) (encodes : c.bits = c.code.bits)
      (interrupt : c.code.direction = .interrupt) (index : c.code.index.val = 16 + channel.val)
      (name : c.name = .fastIrq channel.val)
  | unknown (name : c.name = .unknown c.bits)

theorem named (c : Cause) : c.Named := by
  by_cases encodes : c.code.bits = c.bits
  · have valid : ¬ c.code.bits ≠ c.bits := not_not_intro encodes
    cases titled : c.code.title with
    | some text =>
        have name : c.name = .named text := by
          unfold Cause.name
          rw [if_neg valid, titled]
        exact .title encodes.symm titled name
    | none =>
        by_cases fast : (c.isInterrupt && decide (fastIrqBase ≤ c.code.index.val)) = true
        · have name : c.name = .fastIrq (c.code.index.val - fastIrqBase) := by
            unfold Cause.name
            rw [if_neg valid, titled]
            exact if_pos fast
          obtain ⟨interrupt, high⟩ := Bool.and_eq_true_iff.mp fast
          have base : 16 ≤ c.code.index.val := of_decide_eq_true high
          have bound := c.code.index.isLt
          exact .fastIrq ⟨c.code.index.val - 16, by omega⟩ encodes.symm
            (of_decide_eq_true interrupt) (Nat.add_sub_cancel' base).symm name
        · refine .unknown ?_
          unfold Cause.name
          rw [if_neg valid, titled]
          exact if_neg fast
  · exact .unknown (if_pos encodes)

/-- A name has no sign for an address. -/
theorem at_notMem_name (c : Cause) : '@' ∉ c.name.text.toList := by
  cases c.named with
  | title _ titled name =>
      rw [name]
      exact (Code.title_letters titled).2.2
  | fastIrq channel _ _ _ name =>
      rw [name]
      exact CauseName.at_notMem_fastIrq channel
  | unknown name =>
      rw [name]
      exact CauseName.at_notMem_unknown c.bits

/-- **The name of a cause tells the cause**, all of its 32 bits: a cause with stray bits is never
printed like a title or a fast interrupt line. -/
theorem text_name_injective : Function.Injective fun c : Cause => c.name.text := by
  intro c d same
  change c.name.text = d.name.text at same
  refine congrArg Cause.mk ?_
  cases c.named with
  | title encodes titled name =>
      cases d.named with
      | title encodes' titled' name' =>
          rw [name, name'] at same
          have titles : d.code.title = some _ := titled'.trans (congrArg some same.symm)
          rw [encodes, encodes', Code.title_injective titled titles]
      | fastIrq _ _ _ _ name' =>
          rw [name, name'] at same
          exact absurd same (CauseName.title_ne_fastIrq titled _)
      | unknown name' =>
          rw [name, name'] at same
          exact absurd same (CauseName.title_ne_unknown titled _)
  | fastIrq channel encodes interrupt index name =>
      cases d.named with
      | title _ titled' name' =>
          rw [name, name'] at same
          exact absurd same.symm (CauseName.title_ne_fastIrq titled' _)
      | fastIrq channel' encodes' interrupt' index' name' =>
          rw [name, name'] at same
          have line : channel = channel' := CauseName.fastIrq_injective same
          have code : c.code = ⟨.interrupt, c.code.index⟩ := congrArg (Code.mk · _) interrupt
          have code' : d.code = ⟨.interrupt, d.code.index⟩ := congrArg (Code.mk · _) interrupt'
          have index : c.code.index = d.code.index := Fin.ext (by rw [index, index', line])
          rw [encodes, encodes', code, code', index]
      | unknown name' =>
          rw [name, name'] at same
          exact absurd same (CauseName.fastIrq_ne_unknown _ _)
  | unknown name =>
      cases d.named with
      | title _ titled' name' =>
          rw [name, name'] at same
          exact absurd same.symm (CauseName.title_ne_unknown titled' _)
      | fastIrq _ _ _ _ name' =>
          rw [name, name'] at same
          exact absurd same.symm (CauseName.fastIrq_ne_unknown _ _)
      | unknown name' =>
          rw [name, name'] at same
          exact Hex.padded_injective .upper ((String.append_right_inj _).mp same)

end Cause

end TrapDispatch
