import TrapDispatch.Proofs.Reporting

/-!
The debug report in terms of the registers and the memory of the hart that makes it.

* `Hart.diagnosticLine`: the line up to its ending, field by field.
* `Hart.diagnosticLine_eq`: how its words are written, digit by digit.
* `disposition_eq`: the class of a cause, by bit 31 and the three fatal words.
* `debugReport_prints_line_then_applies_policy`: what a report prints, whether it returns, and that
  it changes nothing but the console and the interrupt enables.
-/

namespace TrapDispatch

/-! ### The privilege that the line shows -/

/-- The previous privilege is machine mode as soon as one bit of its field is set. -/
theorem Word.and_machinePrivilege_ne_zero_iff (w : Word) :
    w &&& machinePrivilege ≠ 0#32 ↔ w.getLsbD 11 = true ∨ w.getLsbD 12 = true := by
  have field : machinePrivilege = bit ⟨11, by decide⟩ ||| bit ⟨12, by decide⟩ := by decide
  have both : w &&& machinePrivilege = 0#32 ↔
      w &&& bit ⟨11, by decide⟩ = 0#32 ∧ w &&& bit ⟨12, by decide⟩ = 0#32 := by
    rw [field, BitVec.and_or_distrib_left, BitVec.or_eq_zero_iff]
  rw [ne_eq, both, and_bit_eq_zero_iff, and_bit_eq_zero_iff, Decidable.not_and_iff_or_not,
    Bool.not_eq_false, Bool.not_eq_false]

/-! ### The class of a cause -/

namespace Cause

/-- Interrupts are told by bit 31 alone, and fatal exceptions by the whole word. -/
theorem disposition_eq (c : Cause) :
    c.disposition =
      if c.bits.getLsbD 31 = true then .unhandledInterrupt
      else if c.bits = 0#32 ∨ c.bits = 1#32 ∨ c.bits = 16#32 then .fatalException
      else .recoverableException := by
  unfold disposition
  simp only [isInterrupt_eq, isFatal_iff]

/-- The enable bit of an interrupt is the one that the low five bits of its cause select. -/
theorem bit_code_index (c : Cause) : Word.bit c.code.index = 1#32 <<< (c.bits &&& 0x1f#32).toNat :=
  congrArg (1#32 <<< ·) (Word.toNat_and_low5 c.bits).symm

end Cause

/-! ### The line -/

namespace Hart

variable (h : Hart)

/-- The instruction that the line shows: the register for it where the core has one. Otherwise it is
the memory word around the resume address, or the upper half of that word, and zero for an interrupt
and a fatal exception. -/
def printedInstruction (hasMtinst : Bool) : Word :=
  if hasMtinst then h.csrs.trappedInstruction
  else if h.csrs.cause.getLsbD 31 = true ∨ h.csrs.cause = 0#32 ∨ h.csrs.cause = 1#32 ∨
      h.csrs.cause = 16#32 then 0#32
  else if h.csrs.resumeAddress &&& 2#32 = 0#32 then
    h.memory.read (h.csrs.resumeAddress &&& ~~~3#32).toNat
  else h.memory.read (h.csrs.resumeAddress &&& ~~~3#32).toNat >>> 16

/-- The line without its ending. -/
def diagnosticLine (hasMtinst : Bool) : String :=
  "<RTE> [cpu" ++ toString h.csrs.hartId.toNat ++ "|" ++
    (if h.csrs.status.getLsbD 11 = true ∨ h.csrs.status.getLsbD 12 = true then "M" else "U") ++
    "] " ++ (Cause.name ⟨h.csrs.cause⟩).text ++
    " @ PC=" ++ Hex.padded .upper h.csrs.resumeAddress ++
    ", MTINST=" ++ Hex.padded .upper (h.printedInstruction hasMtinst) ++
    ", MTVAL=" ++ Hex.padded .upper h.csrs.trapValue

/-- The hart with other interrupt enables and all else as it is. -/
def withEnables (enables : Word) : Hart :=
  { h with csrs := { h.csrs with interruptEnable := enables } }

/-- The interrupt enables after a report: an interrupt takes its own away, a fatal exception all. -/
def reportedEnables : Word :=
  if h.csrs.cause.getLsbD 31 = true then
    h.csrs.interruptEnable &&& ~~~(1#32 <<< (h.csrs.cause &&& 0x1f#32).toNat)
  else if h.csrs.cause = 0#32 ∨ h.csrs.cause = 1#32 ∨ h.csrs.cause = 16#32 then 0#32
  else h.csrs.interruptEnable

/-- A report about any other exception keeps them. -/
theorem reportedEnables_of_recoverable
    (recoverable : Cause.disposition ⟨h.csrs.cause⟩ = .recoverableException) :
    h.reportedEnables = h.csrs.interruptEnable := by
  rw [Cause.disposition_eq] at recoverable
  unfold reportedEnables
  split at recoverable
  · cases recoverable
  · rename_i exception
    split at recoverable
    · cases recoverable
    · rename_i harmless
      rw [if_neg exception, if_neg harmless]

end Hart

namespace Dispatcher

variable (d : Dispatcher) (h : Hart)

theorem shownInstruction_eq :
    d.shownInstruction h = h.printedInstruction d.config.hasMtinst := by
  have fetched : h.instructionAt false h.csrs.resumeAddress =
      if h.csrs.resumeAddress &&& 2#32 = 0#32 then
        h.memory.read (h.csrs.resumeAddress &&& ~~~3#32).toNat
      else h.memory.read (h.csrs.resumeAddress &&& ~~~3#32).toNat >>> 16 := by
    simp only [Hart.instructionAt, Word.toNat_and_not_three, Word.and_two_eq_zero_iff,
      Bool.false_eq_true, if_false]
  unfold shownInstruction Hart.printedInstruction
  cases d.config.hasMtinst with
  | true => rfl
  | false =>
      rw [fetched, Cause.disposition_eq]
      by_cases interrupt : h.csrs.cause.getLsbD 31 = true
      · simp only [interrupt, if_true, true_or, reduceCtorEq, Bool.false_eq_true, or_self, if_false]
      · by_cases fatal : h.csrs.cause = 0#32 ∨ h.csrs.cause = 1#32 ∨ h.csrs.cause = 16#32
        · simp only [interrupt, fatal, if_true, or_true, reduceCtorEq, Bool.false_eq_true, or_self,
            if_false]
        · simp only [interrupt, fatal, if_true, or_self, Bool.false_eq_true, false_or, if_false]

theorem reportOf_text :
    (d.reportOf h).text =
      h.diagnosticLine d.config.hasMtinst ++ (Cause.disposition ⟨h.csrs.cause⟩).closing := by
  have privilege : (d.reportOf h).privilege =
      if h.csrs.status.getLsbD 11 = true ∨ h.csrs.status.getLsbD 12 = true then "M" else "U" := by
    unfold Report.privilege reportOf
    simp only [Word.and_machinePrivilege_ne_zero_iff, decide_eq_true_eq]
  unfold Report.text Report.opening Hart.diagnosticLine
  rw [privilege, ← d.shownInstruction_eq h]
  rfl

/-- The policy reaches the interrupt enables only, however the dispatcher changes bits. -/
theorem policy_eq : d.policy ⟨h.csrs.cause⟩ h = h.withEnables h.reportedEnables := by
  unfold policy Hart.reportedEnables
  rw [Cause.disposition_eq]
  by_cases interrupt : h.csrs.cause.getLsbD 31 = true
  · simp only [if_pos interrupt, Hart.clearBits, Csrs.clearBits_eq, Cause.bit_code_index]
    rfl
  · by_cases fatal : h.csrs.cause = 0#32 ∨ h.csrs.cause = 1#32 ∨ h.csrs.cause = 16#32
    · simp only [if_neg interrupt, if_pos fatal]
      rfl
    · simp only [if_neg interrupt, if_neg fatal]
      rfl

end Dispatcher

/-! ### The report -/

namespace Machine

/-- The machine after a text on a console, with other interrupt enables on its hart and all else as
it is. -/
def printed (m : Machine) (c : Console) (text : String) (enables : Word) : Machine :=
  { c.puts text m with hart := m.hart.withEnables enables }

end Machine

namespace Dispatcher

variable (d : Dispatcher)

theorem reported_eq (c : Console) (m : Machine) :
    d.reported c m = m.printed c
      (m.hart.diagnosticLine d.config.hasMtinst ++ (Cause.disposition ⟨m.hart.csrs.cause⟩).closing)
      m.hart.reportedEnables := by
  unfold reported Machine.printed
  rw [reportOf_text, policy_eq]

/-- A report is the same whichever way the dispatcher changes bits. -/
theorem debugReport_access (via : BitAccess) (console : Option Console) :
    Dispatcher.debugReport ⟨via, d.config⟩ console = d.debugReport console := by
  funext m
  cases console with
  | none => rfl
  | some c => simp only [debugReport_apply, reported_eq]

/-- The debug handler is the report on the registered console. -/
theorem debugHandler_eq : d.debugHandler = d.debugReport (some .registered) := by
  funext m
  rw [debugHandler_apply, debugReport_apply]
  rfl

/-- What the debug handler leaves behind while its console is available, whether it halts or not. -/
theorem debugHandler_outcome {m : Machine} (available : m.recorder.available = true) :
    (d.debugHandler.outcome m).2 = d.reported .registered m := by
  have equation := d.debugHandler_apply m
  rw [if_pos available] at equation
  split at equation
  · rw [Act.outcome_of_error equation]
  · rw [Act.outcome_of_ok equation]

/-- A report leaves alone whatever depends on neither the consoles nor the interrupt enables. -/
theorem debugReport_keeps {γ : Type} {view : Machine → γ}
    (prints : ∀ (c : Console) (text : String) (m : Machine), view (c.puts text m) = view m)
    (enables : ∀ (e : Word) (m : Machine), view { m with hart := m.hart.withEnables e } = view m)
    (console : Option Console) : (d.debugReport console).Keeps view := by
  intro m
  cases console with
  | none => rfl
  | some c =>
      have reported : view (d.reported c m) = view m := by
        have changed := fun text => enables m.hart.reportedEnables (c.puts text m)
        simp only [Console.puts_hart, prints] at changed
        rw [reported_eq]
        exact changed _
      have equation := d.debugReport_apply c m
      split at equation
      · split at equation
        · rw [Act.outcome_of_error equation, reported]
        · rw [Act.outcome_of_ok equation, reported]
      · rw [Act.outcome_of_ok equation]

/-- Nothing of the hart changes but its interrupt enables. -/
theorem debugReport_hart (console : Option Console) (m : Machine) :
    ((d.debugReport console).outcome m).2.hart =
      m.hart.withEnables ((d.debugReport console).outcome m).2.hart.csrs.interruptEnable := by
  have rest : (d.debugReport console).Keeps fun m => m.hart.withEnables 0#32 :=
    d.debugReport_keeps (fun c text m => by simp only [Console.puts_hart]) (fun _ _ => rfl) console
  have put := congrArg
    (Hart.withEnables · ((d.debugReport console).outcome m).2.hart.csrs.interruptEnable) (rest m)
  exact put

/-- **The debug report: its text, its policy and what it leaves alone.** On an available console it
prints the line of its hart and an ending. With bit 31 of the cause it says that it disables the
source and takes away the one enable that the low five bits of the cause select; for the causes 0, 1
and 16 it says that it halts, takes away all enables and halts; otherwise it ends the line. It
changes nothing else, and nothing at all without an available console. The debug handler is the
report on the registered console, and it does not matter how the dispatcher changes bits. -/
theorem debugReport_prints_line_then_applies_policy (d : Dispatcher) (console : Option Console)
    (m : Machine) :
    let cause := m.hart.csrs.cause
    let enables := m.hart.csrs.interruptEnable
    let line := m.hart.diagnosticLine d.config.hasMtinst
    let after := ((d.debugReport console).outcome m).2
    (d.debugReport console m =
      match console with
      | none => .ok () m
      | some c =>
        if c.isAvailable m = true then
          if cause.getLsbD 31 = true then
            .ok () (m.printed c (line ++ " Disabling IRQ source </RTE>\n")
              (enables &&& ~~~(1#32 <<< (cause &&& 0x1f#32).toNat)))
          else if cause = 0#32 ∨ cause = 1#32 ∨ cause = 16#32 then
            .error .halted (m.printed c (line ++ " !!FATAL EXCEPTION!! Halting CPU </RTE>\n") 0#32)
          else .ok () (m.printed c (line ++ " </RTE>\n") enables)
        else .ok () m) ∧
      after.hart = m.hart.withEnables after.hart.csrs.interruptEnable ∧
      after.table = m.table ∧ after.visits = m.visits ∧
      d.debugHandler m = d.debugReport (some .registered) m ∧
      ∀ via, Dispatcher.debugReport ⟨via, d.config⟩ console m = d.debugReport console m := by
  refine ⟨?text, d.debugReport_hart console m, ?table, ?visits, congrFun d.debugHandler_eq m,
    fun via => congrFun (d.debugReport_access via console) m⟩
  case table => exact d.debugReport_keeps Console.puts_table (fun _ _ => rfl) console m
  case visits => exact d.debugReport_keeps Console.puts_visits (fun _ _ => rfl) console m
  case text =>
    cases console with
    | none => rfl
    | some c =>
        rw [debugReport_apply, reported_eq, Hart.reportedEnables, Cause.disposition_eq]
        by_cases interrupt : m.hart.csrs.cause.getLsbD 31 = true
        · simp only [if_pos interrupt, reduceCtorEq, if_false]
          rfl
        · by_cases fatal : m.hart.csrs.cause = 0#32 ∨ m.hart.csrs.cause = 1#32 ∨
              m.hart.csrs.cause = 16#32
          · simp only [if_neg interrupt, if_pos fatal, if_true]
            rfl
          · simp only [if_neg interrupt, if_neg fatal, reduceCtorEq, if_false]
            rfl

end Dispatcher

/-- Each of the three words on a line is written as `0x` and eight upper-case digits. -/
theorem Hart.diagnosticLine_eq (h : Hart) (hasMtinst : Bool) :
    h.diagnosticLine hasMtinst =
      "<RTE> [cpu" ++ toString h.csrs.hartId.toNat ++ "|" ++
        (if h.csrs.status.getLsbD 11 = true ∨ h.csrs.status.getLsbD 12 = true then "M" else "U") ++
        "] " ++ (Cause.name ⟨h.csrs.cause⟩).text ++
        " @ PC=" ++ ("0x" ++ Hex.upperDigits h.csrs.resumeAddress) ++
        ", MTINST=" ++ ("0x" ++ Hex.upperDigits (h.printedInstruction hasMtinst)) ++
        ", MTVAL=" ++ ("0x" ++ Hex.upperDigits h.csrs.trapValue) := by
  unfold diagnosticLine
  rw [Hex.padded_upper, Hex.padded_upper, Hex.padded_upper]

/-! The line of a hart that met an instruction which no core implements. -/

example :
    ({ Hart.initial 0#32 with csrs :=
      { Csrs.initial 0#32 with
        status := 0x1800#32, cause := 2#32, resumeAddress := 0x80000124#32
        trapValue := 0xc0001073#32 } } : Hart).diagnosticLine true =
      "<RTE> [cpu0|M] Illegal instruction @ PC=0x80000124, MTINST=0x00000000, MTVAL=0xC0001073" := by
  decide +kernel

end TrapDispatch
