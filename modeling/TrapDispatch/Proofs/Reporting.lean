import TrapDispatch.Report
import TrapDispatch.Proofs.Dispatch

/-!
The debug report, as an equation.

* `observe_apply`: collecting what the line shows never stops and changes nothing; the line is
  `reportOf` of the hart.
* `debugReport_apply`: an unavailable console leaves everything alone. An available one takes the
  line, the policy changes at most the interrupt enables of the hart (`policy`), and the hart halts
  exactly for the three fatal causes (`disposition_eq_fatal_iff`).
-/

namespace TrapDispatch

namespace Cause

/-- The fatal causes are three words, stray bits excluded. -/
theorem disposition_eq_fatal_iff (c : Cause) :
    c.disposition = .fatalException ↔ c.bits = 0#32 ∨ c.bits = 1#32 ∨ c.bits = 16#32 := by
  rw [← isFatal_iff]
  unfold disposition
  rw [isInterrupt_eq]
  constructor
  · intro h
    split at h
    · cases h
    · split at h
      · assumption
      · cases h
  · intro fatal
    have exception : c.bits.getLsbD 31 = false := by
      rcases (isFatal_iff c).mp fatal with h | h | h <;> rw [h] <;> rfl
    simp only [exception, fatal, Bool.false_eq_true, if_false, if_true]

end Cause

namespace Console

/-! ### Output reaches nothing but the console -/

variable (c : Console) (s : String) (m : Machine)

@[simp] theorem puts_hart : (c.puts s m).hart = m.hart := by cases c <;> rfl

@[simp] theorem puts_table : (c.puts s m).table = m.table := by cases c <;> rfl

@[simp] theorem puts_visits : (c.puts s m).visits = m.visits := by cases c <;> rfl

end Console

@[simp] theorem Machine.print_hart (m : Machine) (s : String) : (m.print s).hart = m.hart := by
  rw [print_eq]
  split
  · exact Console.puts_hart ..
  · rfl

@[simp] theorem Machine.print_table (m : Machine) (s : String) : (m.print s).table = m.table := by
  rw [print_eq]
  split
  · exact Console.puts_table ..
  · rfl

namespace Dispatcher

/-! ### The line -/

/-- The instruction that the line shows. -/
def shownInstruction (d : Dispatcher) (h : Hart) : Word :=
  if d.config.hasMtinst = true ∨ Cause.disposition ⟨h.csrs.cause⟩ = .recoverableException then
    h.instructionAt d.config.hasMtinst h.csrs.resumeAddress
  else 0#32

/-- The report about the trap that a hart has taken. -/
def reportOf (d : Dispatcher) (h : Hart) : Report where
  hart := h.csrs.hartId
  machineMode := h.csrs.status &&& machinePrivilege ≠ 0#32
  cause := ⟨h.csrs.cause⟩
  resume := h.csrs.resumeAddress
  instruction := d.shownInstruction h
  value := h.csrs.trapValue

theorem observe_apply (d : Dispatcher) (m : Machine) :
    d.observe m = .ok (d.reportOf m.hart) m := by
  have shown : d.reportedInstruction ⟨m.hart.read .cause⟩ (m.hart.read .resumeAddress) m =
      .ok (d.shownInstruction m.hart) m := by
    unfold reportedInstruction shownInstruction
    simp only [Bool.or_eq_true, decide_eq_true_eq]
    by_cases looks : d.config.hasMtinst = true ∨
        Cause.disposition ⟨m.hart.csrs.cause⟩ = .recoverableException
    · rw [if_pos looks]
      exact (congrFun (if_pos looks) m).trans (d.trappedInstruction_apply _ m)
    · rw [if_neg looks]
      exact congrFun (if_neg looks) m
  unfold observe
  simp only [Act.bind_apply, Act.read_apply, shown]
  rfl

/-! ### The policy -/

/-- A hart after the default policy: an unhandled interrupt loses its enable bit, a fatal exception
loses all of them, and nothing else changes. -/
def policy (d : Dispatcher) (cause : Cause) (h : Hart) : Hart :=
  match cause.disposition with
  | .unhandledInterrupt => h.clearBits d.access .interruptEnable (Word.bit cause.code.index)
  | .recoverableException => h
  | .fatalException => h.write .interruptEnable 0#32

@[simp] theorem policy_memory (d : Dispatcher) (cause : Cause) (h : Hart) :
    (d.policy cause h).memory = h.memory := by
  unfold policy
  split <;> rfl

theorem applyPolicy_apply (d : Dispatcher) (cause : Cause) (m : Machine) :
    d.applyPolicy cause m =
      if cause.disposition = .fatalException then
        .error .halted { m with hart := d.policy cause m.hart }
      else .ok () { m with hart := d.policy cause m.hart } := by
  unfold applyPolicy policy
  cases cause.disposition <;> rfl

/-! ### The whole report -/

/-- A machine after a report on an available console. -/
def reported (d : Dispatcher) (c : Console) (m : Machine) : Machine :=
  { c.puts (d.reportOf m.hart).text m with hart := d.policy ⟨m.hart.csrs.cause⟩ m.hart }

theorem debugReport_apply (d : Dispatcher) (c : Console) (m : Machine) :
    d.debugReport (some c) m =
      if c.isAvailable m then
        if Cause.disposition ⟨m.hart.csrs.cause⟩ = .fatalException then
          .error .halted (d.reported c m)
        else .ok () (d.reported c m)
      else .ok () m := by
  unfold debugReport reported
  simp only [Act.bind_apply, Act.get_apply]
  by_cases available : c.isAvailable m = true
  · rw [if_pos available, if_pos available]
    simp only [Act.bind_apply, observe_apply, Act.puts, Act.modify_apply, applyPolicy_apply,
      Console.puts_hart]
    rfl
  · rw [if_neg available, if_neg available]
    rfl

/-- The debug handler reports on the registered console while that is available. -/
theorem debugHandler_apply (d : Dispatcher) (m : Machine) :
    d.debugHandler m =
      if m.recorder.available = true then
        if Cause.disposition ⟨m.hart.csrs.cause⟩ = .fatalException then
          .error .halted (d.reported .registered m)
        else .ok () (d.reported .registered m)
      else .ok () m := by
  unfold debugHandler
  simp only [Act.bind_apply, Act.get_apply, Machine.backend]
  change d.debugReport (if m.recorder.available = true then some .registered else none) m = _
  by_cases available : m.recorder.available = true
  · rw [if_pos available, if_pos available, debugReport_apply]
    exact if_pos available
  · rw [if_neg available, if_neg available]
    rfl

end Dispatcher

end TrapDispatch
