import Mathlib.Data.List.Nodup
import TrapDispatch.Proofs.CauseNames
import TrapDispatch.Proofs.DiagnosticLine

/-!
The words that encode a trap code. Checking a word, masking a cause, building a code from its fields,
listing the codes, selecting a slot and naming a cause are separate pieces of code; here they are
shown to describe one set of words.

* `EncodesCode`: a word encodes a code if its bits 5 to 30 are zero.
* `ofBits_eq`: such a word is accepted as the code that it selects, and any other is refused.
* `encodesCode_iff_new`, `encodesCode_iff_masked`: these are the words that are built from a direction
  and an index, and the causes without stray bits.
* `mem_all_bits_iff`, `nodup_all_bits`: the list of codes has each of them once.
* `install_accepts_code_words`: an install goes by them as well, and so do the names and the classes
  of causes.
-/

namespace TrapDispatch

/-- The bits between the index and the direction are zero. -/
def Word.EncodesCode (w : Word) : Prop := ∀ i : Nat, 5 ≤ i → i ≤ 30 → w.getLsbD i = false

namespace Code

/-! ### Accepted words -/

/-- The mask has all bits but those between the index and the direction. -/
theorem getLsbD_validMask : ∀ i : Fin 32, validMask.getLsbD i.val = decide (i.val < 5 ∨ 30 < i.val) := by
  decide

/-- Such words are the ones that masking leaves alone. -/
theorem encodesCode_iff_masked (w : Word) : w.EncodesCode ↔ w &&& validMask = w := by
  constructor
  · intro encodes
    apply Word.ext_bits
    intro i
    rw [BitVec.getLsbD_and, getLsbD_validMask]
    by_cases between : 5 ≤ i.val ∧ i.val ≤ 30
    · rw [encodes i.val between.1 between.2, Bool.false_and]
    · have meaningful : i.val < 5 ∨ 30 < i.val := by omega
      rw [decide_eq_true meaningful, Bool.and_true]
  · intro masked i low high
    have bit := getLsbD_validMask ⟨i, by omega⟩
    have between : ¬ (i < 5 ∨ 30 < i) := by omega
    rw [← masked, BitVec.getLsbD_and, bit, decide_eq_false between, Bool.and_false]

theorem encodesCode_iff_bits (w : Word) : w.EncodesCode ↔ (ofWord w).bits = w := by
  rw [encodesCode_iff_masked, bits_ofWord]

theorem encodesCode_bits (c : Code) : c.bits.EncodesCode := by
  rw [encodesCode_iff_bits, ofWord_bits]

instance (w : Word) : Decidable w.EncodesCode := decidable_of_iff _ (encodesCode_iff_masked w).symm

/-- A word is accepted as the code that it selects if it encodes one, and refused as it is if not. -/
theorem ofBits_eq (w : Word) :
    ofBits w = if w.EncodesCode then .ok (ofWord w) else .error ⟨w⟩ := by
  unfold ofBits
  simp only [and_validMask_eq_iff, ← encodesCode_iff_masked]

/-! ### Codes from their fields -/

/-- A code is built from its own fields. -/
theorem new_fields (c : Code) : new c.direction (BitVec.ofNat 32 c.index.val) = c := by
  have index : Word.low5 (BitVec.ofNat 32 c.index.val) = c.index := by
    apply Fin.ext
    change c.index.val % 2 ^ 32 % 32 = c.index.val
    omega
  rw [new, index]

/-- The words that encode a code are those built from a direction and an index below 32. -/
theorem encodesCode_iff_new (w : Word) :
    w.EncodesCode ↔ ∃ (d : Direction) (i : Nat), i < 32 ∧ w = (new d (BitVec.ofNat 32 i)).bits := by
  constructor
  · intro encodes
    refine ⟨(ofWord w).direction, (ofWord w).index.val, (ofWord w).index.isLt, ?_⟩
    rw [new_fields, (encodesCode_iff_bits w).mp encodes]
  · rintro ⟨d, i, -, rfl⟩
    exact encodesCode_bits _

/-! ### The list of codes and the slots of the table -/

theorem nodup_all : all.Nodup := by
  have row (d : Direction) : ((List.finRange 32).map (Code.mk d)).Nodup :=
    (List.nodup_finRange 32).map fun _ _ same => (Code.mk.inj same).2
  refine List.Nodup.append (row .exception) (row .interrupt) ?_
  intro c exception interrupt
  obtain ⟨i, -, rfl⟩ := List.mem_map.mp exception
  obtain ⟨j, -, same⟩ := List.mem_map.mp interrupt
  cases same

/-- No two codes of the list have the same encoding. -/
theorem nodup_all_bits : (all.map bits).Nodup := nodup_all.map fun _ _ => bits_injective

/-- The encodings of the list are all the words that encode a code. -/
theorem mem_all_bits_iff (w : Word) : w ∈ all.map bits ↔ w.EncodesCode := by
  constructor
  · intro listed
    obtain ⟨c, -, rfl⟩ := List.mem_map.mp listed
    exact encodesCode_bits c
  · intro encodes
    exact List.mem_map.mpr ⟨ofWord w, mem_all _, (encodesCode_iff_bits w).mp encodes⟩

/-- Where the slot of a code stands in the table: in which row, and where in the row. -/
def place (c : Code) : Nat × Nat := (c.direction.row, c.index.val)

theorem place_injective : Function.Injective place := by
  intro c d same
  obtain ⟨row, index⟩ := Prod.mk.inj same
  obtain ⟨cd, ci⟩ := c
  obtain ⟨dd, di⟩ := d
  cases Fin.ext index
  cases cd <;> cases dd
  · rfl
  · cases row
  · cases row
  · rfl

end Code

/-! ### Causes -/

namespace Cause

/-- The slot of a cause is in the row of the interrupts just if the cause is classed as one. -/
theorem direction_code_iff (c : Cause) :
    c.code.direction = .interrupt ↔ c.disposition = .unhandledInterrupt := by
  have direction : c.code.direction = .interrupt ↔ c.isInterrupt = true := decide_eq_true_iff.symm
  rw [direction, isInterrupt_eq, disposition_eq]
  by_cases interrupt : c.bits.getLsbD 31 = true
  · simp only [interrupt, if_true]
  · by_cases fatal : c.bits = 0#32 ∨ c.bits = 1#32 ∨ c.bits = 16#32
    · simp only [interrupt, fatal, if_true, if_false, reduceCtorEq]
    · simp only [interrupt, fatal, if_false, reduceCtorEq]

/-- The code of a fast interrupt line. -/
theorem fastIrq_eq (channel : Fin 16) :
    Code.fastIrq (BitVec.ofNat 32 channel.val) = ⟨.interrupt, ⟨16 + channel.val, by omega⟩⟩ := by
  revert channel
  decide

/-- A cause is named as a fast interrupt line just if it is the code of that line. -/
theorem name_eq_fastIrq_iff (c : Cause) (n : Nat) :
    c.name = .fastIrq n ↔ n < 16 ∧ c.bits = (Code.fastIrq (BitVec.ofNat 32 n)).bits := by
  constructor
  · intro named
    cases c.named with
    | title _ _ name =>
        rw [name] at named
        cases named
    | fastIrq channel encodes interrupt index name =>
        rw [name] at named
        cases named
        have code : c.code = ⟨.interrupt, ⟨16 + channel.val, by omega⟩⟩ := by
          rw [← interrupt]
          exact congrArg (Code.mk _) (Fin.ext index)
        rw [fastIrq_eq, encodes, code]
        exact ⟨channel.isLt, rfl⟩
    | unknown name =>
        rw [name] at named
        cases named
  · rintro ⟨bound, encodes⟩
    have each : ∀ channel : Fin 16,
        name ⟨(Code.fastIrq (BitVec.ofNat 32 channel.val)).bits⟩ = .fastIrq channel.val := by
      decide
    have cause : c = ⟨(Code.fastIrq (BitVec.ofNat 32 n)).bits⟩ := congrArg Cause.mk encodes
    rw [cause]
    exact each ⟨n, bound⟩

/-- A cause that encodes no code is unknown. -/
theorem encodesCode_or_name_eq_unknown (c : Cause) :
    c.bits.EncodesCode ∨ c.name = .unknown c.bits := by
  by_cases encodes : c.bits.EncodesCode
  · exact .inl encodes
  · exact .inr (if_pos fun masked => encodes ((Code.encodesCode_iff_bits c.bits).mpr masked))

end Cause

/-! ### Installing -/

/-- **Installs, codes and causes agree on what encodes a code.** A word is accepted just if its bits 5
to 30 are zero. Then it is put together again from the direction and the index of its code, and an
install changes the slot of that code, another one for every such word, and nothing else. Any other
word is handed back in the error, and an install changes nothing. The accepted words are the ones
built from a direction and an index, the causes that select themselves, and those on the list of
codes, each once. Every cause selects an accepted word, in the row of the interrupts just if it is
classed as one; only accepted words have names of their own, those of the fast interrupt lines just
their sixteen codes; and only 0, 1 and 16 are fatal. -/
theorem install_accepts_code_words (w : Word) (slot : Option Handler) (m : Machine) :
    (match Code.ofBits w with
      | .ok c =>
        w.EncodesCode ∧ (Code.new c.direction (BitVec.ofNat 32 c.index.val)).bits = w ∧
          ∃ t : VectorTable, Act.install w slot m = .ok (.ok ()) { m with table := t } ∧
            ∀ k, t.get k = if k.place = c.place then slot else m.table.get k
      | .error e => ¬ w.EncodesCode ∧ e.bits = w ∧ Act.install w slot m = .ok (.error e) m) ∧
    (w.EncodesCode ↔
      ∃ (d : Direction) (i : Nat), i < 32 ∧ w = (Code.new d (BitVec.ofNat 32 i)).bits) ∧
    (w.EncodesCode ↔ (Cause.code ⟨w⟩).bits = w) ∧
    (∀ c d : Code, Code.ofBits w = .ok c → c.place = d.place → w = d.bits) ∧
    (∀ v, v ∈ Code.all.map Code.bits ↔ v.EncodesCode) ∧ (Code.all.map Code.bits).Nodup ∧
    Code.ofBits (Cause.code ⟨w⟩).bits = .ok (Cause.code ⟨w⟩) ∧
    ((Cause.code ⟨w⟩).direction = .interrupt ↔ Cause.disposition ⟨w⟩ = .unhandledInterrupt) ∧
    (w.EncodesCode ∨ Cause.name ⟨w⟩ = .unknown w) ∧
    (∀ n, Cause.name ⟨w⟩ = .fastIrq n ↔ n < 16 ∧ w = (Code.fastIrq (BitVec.ofNat 32 n)).bits) ∧
    (Cause.disposition ⟨w⟩ = .fatalException ↔ w = 0#32 ∨ w = 1#32 ∨ w = 16#32) := by
  refine ⟨?install, Code.encodesCode_iff_new w, Code.encodesCode_iff_bits w, ?slots,
    Code.mem_all_bits_iff, Code.nodup_all_bits, Code.ofBits_bits _, Cause.direction_code_iff ⟨w⟩,
    Cause.encodesCode_or_name_eq_unknown ⟨w⟩, Cause.name_eq_fastIrq_iff ⟨w⟩,
    Cause.disposition_eq_fatal_iff ⟨w⟩⟩
  case install =>
    have installed := Act.install_apply w slot m
    unfold VectorTable.installWord at installed
    by_cases encodes : w.EncodesCode
    · have accepted := (Code.ofBits_eq w).trans (if_pos encodes)
      have built : (Code.new (Code.ofWord w).direction
          (BitVec.ofNat 32 (Code.ofWord w).index.val)).bits = w := by
        rw [Code.new_fields, (Code.encodesCode_iff_bits w).mp encodes]
      rw [accepted] at installed ⊢
      refine ⟨encodes, built, m.table.install (Code.ofWord w) slot, installed, fun k => ?_⟩
      simp only [VectorTable.get_install, Code.place_injective.eq_iff]
    · have refused := (Code.ofBits_eq w).trans (if_neg encodes)
      rw [refused] at installed ⊢
      exact ⟨encodes, rfl, installed⟩
  case slots =>
    intro c d accepted same
    rw [← Code.place_injective same]
    exact Code.ofBits_eq_ok_iff.mp accepted

/-! The word of the timer interrupt, and the same index with a stray bit. -/

theorem install_accepts_timer_word :
    Code.ofBits 0x80000007#32 = .ok .machineTimer ∧
      Code.machineTimer.place = (1, 7) ∧ 0x80000007#32 = Code.machineTimer.bits ∧
      Code.ofBits 0x40000007#32 = .error ⟨0x40000007#32⟩ ∧ ¬ Word.EncodesCode 0x40000007#32 := by
  let m : Machine := .start (.initial 0#32) .empty true
  have valid := install_accepts_code_words 0x80000007#32 none m
  have stray := install_accepts_code_words 0x40000007#32 none m
  exact ⟨rfl, rfl, valid.2.2.2.1 .machineTimer .machineTimer rfl rfl, rfl, stray.1.1⟩

end TrapDispatch
