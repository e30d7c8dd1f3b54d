import TrapDispatch.Dispatcher
import TrapDispatch.Proofs.Actions

/-!
The dispatch of one trap, as an equation.

* `trappedInstruction_apply`: looking at the trapped instruction never stops and changes nothing;
  what is seen is `Hart.instructionAt`.
* `advance_apply`: the move of the resume address, as a function of the machine that it starts from.
* `handleTrap_apply`: a dispatch is the call of the handler in the slot of the cause, followed by
  that move.
* `handleTrap_calls_slot_then_skips`: the same with every part of the machine spelt out. The slot
  and the decision to skip come from the cause on entry, the rest from the machine that the handler
  leaves behind.
* `setup_apply`, `install_apply`: setting a hart up and installing a handler never stop;
  `get_installWord` says which slot an install changes.

The handler is any action at all: it may install handlers, write the trap registers, halt or fail.
-/

namespace TrapDispatch

/-! ### Masks of a word -/

namespace Word

/-- Masking with a single bit tests that bit. -/
theorem and_bit_eq_zero_iff (w : Word) (i : Fin 32) :
    w &&& bit i = 0#32 ↔ w.getLsbD i = false := by
  constructor
  · intro h
    have tested := congrArg (·.getLsbD i.val) h
    rw [BitVec.getLsbD_and, getLsbD_bit, BitVec.getLsbD_zero] at tested
    simpa only [decide_true, Bool.and_true] using tested
  · intro h
    apply BitVec.eq_of_getLsbD_eq
    intro j _
    rw [BitVec.getLsbD_and, getLsbD_bit, BitVec.getLsbD_zero]
    by_cases hji : j = i.val
    · rw [hji, h, Bool.false_and]
    · rw [decide_eq_false hji, Bool.and_false]

theorem and_bit_ne_zero_iff (w : Word) (i : Fin 32) :
    w &&& bit i ≠ 0#32 ↔ w.getLsbD i = true := by
  rw [ne_eq, and_bit_eq_zero_iff, Bool.not_eq_false]

/-- Setting one bit sets no other. -/
theorem getLsbD_or_bit (w : Word) (i k : Fin 32) :
    (w ||| bit i).getLsbD k.val = if k = i then true else w.getLsbD k.val := by
  rw [BitVec.getLsbD_or, getLsbD_bit]
  by_cases same : k = i
  · simp [same]
  · have other : k.val ≠ i.val := fun e => same (Fin.ext e)
    simp [same, other]

/-- Clearing one bit clears no other. -/
theorem getLsbD_and_not_bit (w : Word) (i k : Fin 32) :
    (w &&& ~~~bit i).getLsbD k.val = if k = i then false else w.getLsbD k.val := by
  rw [BitVec.getLsbD_and, BitVec.getLsbD_not, getLsbD_bit]
  by_cases same : k = i
  · simp [same]
  · have other : k.val ≠ i.val := fun e => same (Fin.ext e)
    simp [same, other]

/-- A set bit is found set. -/
theorem or_bit_and_bit_ne_zero (w : Word) (i : Fin 32) : (w ||| bit i) &&& bit i ≠ 0#32 := by
  rw [and_bit_ne_zero_iff, getLsbD_or_bit, if_pos rfl]

/-- Words are equal if they agree in their bits. -/
theorem ext_bits {v w : Word} (same : ∀ k : Fin 32, v.getLsbD k.val = w.getLsbD k.val) : v = w :=
  BitVec.eq_of_getLsbD_eq fun k bound => same ⟨k, bound⟩

/-- Clearing a bit does not depend on its having been set. -/
theorem or_bit_and_not_bit (w : Word) (i : Fin 32) :
    (w ||| bit i) &&& ~~~bit i = w &&& ~~~bit i := by
  apply ext_bits
  intro k
  simp only [getLsbD_and_not_bit, getLsbD_or_bit]
  split <;> rfl

theorem and_not_bit_and_not_bit (w : Word) (i : Fin 32) :
    w &&& ~~~bit i &&& ~~~bit i = w &&& ~~~bit i := by
  rw [BitVec.and_assoc, BitVec.and_self]

theorem or_bit_or_bit (w : Word) (i : Fin 32) : w ||| bit i ||| bit i = w ||| bit i := by
  rw [BitVec.or_assoc, BitVec.or_self]

/-- A bit that is put back as it was read leaves the word as it was. -/
theorem restore_bit (w : Word) (i : Fin 32) :
    (if w.getLsbD i.val = true then w &&& ~~~bit i ||| bit i else w &&& ~~~bit i) = w := by
  apply ext_bits
  intro k
  cases on : w.getLsbD i.val with
  | true =>
      rw [if_pos rfl, getLsbD_or_bit, getLsbD_and_not_bit]
      by_cases same : k = i
      · rw [if_pos same, same, on]
      · rw [if_neg same, if_neg same]
  | false =>
      rw [if_neg Bool.false_ne_true, getLsbD_and_not_bit]
      by_cases same : k = i
      · rw [if_pos same, same, on]
      · rw [if_neg same]

/-- Setting a bit changes nothing just if it was set. -/
theorem or_bit_eq_self_iff (w : Word) (i : Fin 32) : w ||| bit i = w ↔ w.getLsbD i.val = true := by
  constructor
  · intro same
    have set := getLsbD_or_bit w i i
    rwa [same, if_pos rfl] at set
  · intro set
    apply ext_bits
    intro k
    rw [getLsbD_or_bit]
    by_cases same : k = i
    · rw [if_pos same, same, set]
    · rw [if_neg same]

/-- Clearing the two lowest bits rounds down to a multiple of four. -/
theorem toNat_and_not_three (w : Word) : (w &&& ~~~3#32).toNat = w.toNat / 4 * 4 := by
  have mask : ~~~3#32 = BitVec.allOnes 32 <<< 2 := by decide
  have bound := w.isLt
  rw [mask, ← BitVec.shiftLeft_ushiftRight, BitVec.toNat_shiftLeft, BitVec.toNat_ushiftRight,
    Nat.shiftRight_eq_div_pow, Nat.shiftLeft_eq]
  omega

/-- Bit 1 of an address says in which half of its word the address lies. -/
theorem and_two_eq_zero_iff (w : Word) : w &&& 2#32 = 0#32 ↔ w.toNat % 4 < 2 := by
  have mask : 2#32 = bit ⟨1, by decide⟩ := by decide
  rw [mask, and_bit_eq_zero_iff, ← BitVec.testBit_toNat, Nat.testBit_eq_decide_div_mod_eq,
    decide_eq_false_iff_not]
  change ¬ w.toNat / 2 % 2 = 1 ↔ _
  omega

end Word

namespace Cause

theorem isInterrupt_eq (c : Cause) : c.isInterrupt = c.bits.getLsbD 31 := by
  have mask : 0x80000000#32 = Word.bit ⟨31, by decide⟩ := by decide
  unfold isInterrupt code Code.ofWord Direction.ofWord
  rw [mask]
  simp only [Word.and_bit_eq_zero_iff]
  cases c.bits.getLsbD 31 <;> rfl

/-- The resume address stays for every word with bit 31 and for the word 1, and for no other. -/
theorem resumesInPlace_iff (c : Cause) :
    c.resumesInPlace = true ↔ c.bits.getLsbD 31 = true ∨ c.bits = 1#32 := by
  rw [resumesInPlace, Bool.or_eq_true, isInterrupt_eq]
  exact or_congr Iff.rfl decide_eq_true_iff

end Cause

/-! ### The trapped instruction -/

/-- The instruction at an address as the core knows it: what the register for it holds, or else the
memory word around the address, from the half that the address lies in upwards. -/
def Hart.instructionAt (h : Hart) (hasMtinst : Bool) (address : Word) : Word :=
  if hasMtinst then h.csrs.trappedInstruction
  else if address.toNat % 4 < 2 then h.memory.read (address.toNat / 4 * 4)
  else h.memory.read (address.toNat / 4 * 4) >>> 16

namespace Dispatcher

/-- Looking at the trapped instruction never stops and changes nothing: the load is aligned. -/
theorem trappedInstruction_apply (d : Dispatcher) (resume : Word) (m : Machine) :
    d.trappedInstruction resume m = .ok (m.hart.instructionAt d.config.hasMtinst resume) m := by
  unfold trappedInstruction Hart.instructionAt
  cases d.config.hasMtinst with
  | true => rfl
  | false =>
      have aligned : resume.toNat / 4 * 4 % 4 = 0 := by omega
      simp only [Bool.false_eq_true, if_false, Act.bind_apply, Act.load_apply,
        Word.toNat_and_not_three, if_pos aligned, Act.pure_apply, Word.and_two_eq_zero_iff]

/-! ### Moving the resume address -/

/-- The width of the instruction at the resume address, as far as the dispatcher looks: two bytes if
the core may run such instructions and this is one, and four otherwise. -/
def stride (d : Dispatcher) (h : Hart) : Word :=
  if d.config.compressedIsa = true ∧
      h.instructionAt d.config.hasMtinst h.csrs.resumeAddress &&& 3#32 ≠ 3#32 then 2#32
  else 4#32

/-- A machine after the move of its resume address, which stays where the cause asks for that. -/
def advanced (d : Dispatcher) (cause : Cause) (m : Machine) : Machine :=
  if cause.resumesInPlace then m
  else { m with hart := { m.hart with csrs := { m.hart.csrs with
    resumeAddress := m.hart.csrs.resumeAddress + d.stride m.hart } } }

section

variable (d : Dispatcher) (cause : Cause) (m : Machine)

@[simp] theorem advanced_memory : (d.advanced cause m).hart.memory = m.hart.memory := by
  unfold advanced
  split <;> rfl

@[simp] theorem advanced_table : (d.advanced cause m).table = m.table := by
  unfold advanced
  split <;> rfl

@[simp] theorem advanced_capture : (d.advanced cause m).capture = m.capture := by
  unfold advanced
  split <;> rfl

@[simp] theorem advanced_visits : (d.advanced cause m).visits = m.visits := by
  unfold advanced
  split <;> rfl

end

theorem nextResume_eq (c : Cause) (resume instruction : Word) (compressed : Bool) :
    c.nextResume resume instruction compressed =
      if c.resumesInPlace then none
      else some (resume +
        if compressed = true ∧ instruction &&& 3#32 ≠ 3#32 then 2#32 else 4#32) := by
  unfold Cause.nextResume
  cases c.resumesInPlace <;> cases compressed <;>
    by_cases h : instruction &&& 3#32 = 3#32 <;> simp [h]

/-- Moving the resume address never stops and changes nothing else. -/
theorem advance_apply (d : Dispatcher) (cause : Cause) (m : Machine) :
    d.advance cause m = .ok () (d.advanced cause m) := by
  unfold advance advanced stride
  by_cases stays : cause.resumesInPlace = true
  · rw [if_pos stays, if_pos stays]
    rfl
  · simp only [if_neg stays, Act.bind_apply, Act.read_apply]
    cases d.config.compressedIsa with
    | true =>
        simp only [if_true, Act.bind_apply, trappedInstruction_apply, nextResume_eq, if_neg stays,
          true_and]
        rfl
    | false =>
        simp only [Bool.false_eq_true, if_false, Act.bind_apply, Act.pure_apply, nextResume_eq,
          if_neg stays, false_and]
        rfl

/-! ### The dispatch -/

/-- What becomes of a slot: its handler is called, and an empty slot is passed over. -/
def call (behaviour : Behaviour) : Option Handler → Act Unit
  | some handler => behaviour handler
  | none => pure ()

/-- A dispatch calls the slot of the cause and then moves the resume address, unless the handler
stopped. -/
theorem handleTrap_apply (d : Dispatcher) (behaviour : Behaviour) (m : Machine) :
    d.handleTrap behaviour m =
      match call behaviour (m.table.get (Cause.code ⟨m.hart.csrs.cause⟩)) m with
      | .ok () s => d.advance ⟨m.hart.csrs.cause⟩ s
      | .error stop s => .error stop s := by
  unfold handleTrap
  simp only [Act.bind_apply, Act.read_apply, Act.slot_apply]
  change _ = match call behaviour (m.table.get (Cause.code ⟨m.hart.read .cause⟩)) m with
    | .ok () s => d.advance ⟨m.hart.read .cause⟩ s
    | .error stop s => .error stop s
  cases m.table.get (Cause.code ⟨m.hart.read .cause⟩) with
  | none => rfl
  | some handler =>
      change (behaviour handler >>= fun _ => d.advance _) m = match behaviour handler m with
        | .ok () s => d.advance _ s
        | .error stop s => .error stop s
      rw [Act.bind_apply]
      cases behaviour handler m <;> rfl

/-- Apart from the resume address, a dispatch leaves what the call of the slot leaves, whether the
handler returns or stops. -/
theorem handleTrap_view {γ : Type} (view : Machine → γ) (d : Dispatcher) (behaviour : Behaviour)
    (blind : ∀ (r : Word) (s : Machine),
      view { s with hart := { s.hart with csrs := { s.hart.csrs with resumeAddress := r } } } =
        view s) (m : Machine) :
    view ((d.handleTrap behaviour).outcome m).2 =
      view ((call behaviour (m.table.get (Cause.code ⟨m.hart.csrs.cause⟩))).outcome m).2 := by
  have equation := d.handleTrap_apply behaviour m
  cases called : call behaviour (m.table.get (Cause.code ⟨m.hart.csrs.cause⟩)) m with
  | error stop s =>
      rw [called] at equation
      rw [Act.outcome_of_error equation, Act.outcome_of_error called]
  | ok _ s =>
      rw [called] at equation
      rw [Act.outcome_of_ok (equation.trans (d.advance_apply _ s)), Act.outcome_of_ok called]
      unfold advanced
      split
      · rfl
      · exact blind _ s

/-- **The dispatch of a trap.** With `c` the cause on entry, the one handler that is called, once
and on the machine as it was, is the one in slot `c & 0x8000001f`; an empty slot is passed over. If
the handler stops, all is left as it left it. Otherwise the machine stays as the handler left it when
bit 31 of `c` is set or `c` is 1, and in every other case its resume address alone moves, by two
bytes if the core may run two-byte instructions and the trapped instruction is one, and by four
otherwise. The address and the instruction are those that the handler left. -/
theorem handleTrap_calls_slot_then_skips (d : Dispatcher) (behaviour : Behaviour) (m : Machine) :
    ∃ k : Code, k.bits = m.hart.csrs.cause &&& 0x8000001f#32 ∧
      d.handleTrap behaviour m =
        match call behaviour (m.table.get k) m with
        | .error stop s => .error stop s
        | .ok () s =>
          .ok () (if m.hart.csrs.cause.getLsbD 31 = true ∨ m.hart.csrs.cause = 1#32 then s
            else { s with hart := { s.hart with csrs := { s.hart.csrs with
              resumeAddress := s.hart.csrs.resumeAddress +
                if d.config.compressedIsa = true ∧ s.hart.instructionAt d.config.hasMtinst
                  s.hart.csrs.resumeAddress &&& 3#32 ≠ 3#32 then 2#32 else 4#32 } } }) := by
  refine ⟨Cause.code ⟨m.hart.csrs.cause⟩, Cause.code_bits _, ?_⟩
  rw [handleTrap_apply]
  cases call behaviour (m.table.get (Cause.code ⟨m.hart.csrs.cause⟩)) m with
  | error stop s => rfl
  | ok _ s =>
      simp only [advance_apply, advanced, Cause.resumesInPlace_iff]
      rfl

/-! ### Setting a hart up -/

/-- A hart after its setup. -/
def prepared (entry : Nat) (h : Hart) : Hart :=
  (((h.write .status machinePrivilege).write .trapVector (BitVec.ofNat 32 entry &&& ~~~3#32)).write
    .interruptEnable 0#32).fence

/-- A setup never stops. It changes three registers of the hart, and the table only on the primary
one. -/
theorem setup_apply (d : Dispatcher) (entry : Nat) (default : Handler) (m : Machine) :
    d.setup entry default m = .ok () { m with
      hart := prepared entry m.hart
      table := if m.hart.csrs.hartId = d.config.primaryHart then m.table.fill default
        else m.table } := by
  unfold setup
  simp only [Act.bind_apply, Act.write_apply, Act.read_apply]
  -- The writes before the test leave the hart id alone.
  by_cases primary : m.hart.csrs.hartId = d.config.primaryHart
  · rw [if_pos primary]
    exact congrFun (if_pos primary) _
  · rw [if_neg primary]
    exact congrFun (if_neg primary) _

end Dispatcher

/-! ### Installing handlers -/

/-- A table after an install for a code word: a word that encodes no code changes nothing. -/
def VectorTable.installWord (t : VectorTable) (code : Word) (slot : Option Handler) : VectorTable :=
  match Code.ofBits code with
  | .ok c => t.install c slot
  | .error _ => t

/-- An install changes the slot whose code the word encodes and no other. -/
theorem VectorTable.get_installWord (t : VectorTable) (code : Word) (slot : Option Handler)
    (k : Code) : (t.installWord code slot).get k = if code = k.bits then slot else t.get k := by
  unfold installWord
  cases decoded : Code.ofBits code with
  | ok c =>
      have encoded : code = c.bits := Code.ofBits_eq_ok_iff.mp decoded
      rw [get_install, encoded]
      by_cases same : k = c
      · rw [if_pos same, if_pos (by rw [same])]
      · rw [if_neg same, if_neg fun bits => same (Code.bits_injective bits).symm]
  | error e =>
      have invalid : code ≠ k.bits := by
        intro encoded
        rw [encoded, Code.ofBits_bits] at decoded
        cases decoded
      rw [if_neg invalid]

/-- An install never stops. Its answer says whether the word encodes a code. -/
theorem Act.install_apply (code : Word) (slot : Option Handler) (m : Machine) :
    install code slot m =
      .ok (match Code.ofBits code with
        | .ok _ => .ok ()
        | .error e => .error e) { m with table := m.table.installWord code slot } := by
  unfold install VectorTable.installWord
  cases Code.ofBits code <;> rfl

end TrapDispatch
