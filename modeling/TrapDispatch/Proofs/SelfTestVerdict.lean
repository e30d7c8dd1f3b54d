import TrapDispatch.Board
import TrapDispatch.Proofs.TableOperations
import TrapDispatch.Proofs.TimerWait

/-!
The self tests as a whole: what they answer, and what they leave behind.

* `run_reaches`: a run from any setting, suite by suite. The answer depends on the table and the trap
  vector alone, and the setting that it leaves is the same but for four slots, one interrupt enable
  and the bench.
* `selfTest_step`: one run on a board. A table full of debug handlers stays so, and
  `selfTest_replies` follows by induction over the runs.
* `selfTest_judges_and_restores`: the two together, with the handlers of the table as unknown actions.
-/

namespace TrapDispatch

open Act

namespace SelfTest

variable {σ : Setting} {r : Rig}

/-! ### The trap suite -/

/-- The slots that the tests install handlers in. -/
def probedCodes : List Code :=
  [.illegalInstruction, .breakpoint, .machineEnvCall, .machineTimer]

/-- The setting after the tests: debug handlers in the probed slots, the timer interrupt disabled. -/
def cleaned (σ : Setting) (bench : Bench) : Setting :=
  { ((((σ.install .illegalInstruction (some .debug)).install .breakpoint (some .debug)).install
      .machineEnvCall (some .debug)).install .machineTimer (some .debug)) with
    interruptEnable := σ.interruptEnable &&& ~~~Word.bit Code.machineTimer.index, bench }

/-- What the tests ask of the setting that they find. -/
def sound (σ : Setting) (entry : Nat) : Prop :=
  (∀ c, σ.table.get c = some .debug) ∧ σ.trapVector = BitVec.ofNat 32 entry

/-- The trap suite passes all of its cases but for the first two. -/
theorem trapCases_reach (genuine : r.Genuine)
    (width : r.dispatcher.config.frameRegisters = 16 ∨ r.dispatcher.config.frameRegisters = 32)
    (start : σ.bench.time = 0#64) :
    ∃ bench, CasesReach σ (trapSuite r).cases
      [.ofBool (Code.all.all fun c => σ.table.get c = some .debug),
        .ofBool (σ.trapVector = BitVec.ofNat 32 r.entry),
        .pass, .pass, .pass, .pass, .pass, .pass, .pass]
      (cleaned σ bench) := by
  -- Before the timer test, three slots hold the debug handler and time stands still.
  let illegal := (σ.count 1).install .illegalInstruction (some .debug)
  let twice := (illegal.count 2).install .breakpoint (some .debug)
  let called := (twice.saw 0#32 stackPointer t2Mark).install .machineEnvCall (some .debug)
  have debug : twice.table.get .breakpoint = some .debug := (illegal.count 2).get_install ..
  obtain ⟨time, timer⟩ := machineTimer_reaches (σ := called) genuine start
  refine ⟨_, .cons defaultTable_reaches <| .cons trapVector_reaches <|
    .cons installRejectsInvalid_reaches <| .cons (illegalInstruction_reaches genuine) <|
    .cons (breakpointTwice_reaches genuine) <| .cons (defaultHandlerResumes_reaches genuine debug) <|
    .cons (clearedSlotResumes_reaches debug) <| .cons (ecallContext_reaches genuine width) <|
    .cons timer <| .nil _⟩

/-! ### The whole run -/

theorem printSummary_reaches (t : Tally) : Reaches σ t.printSummary () σ :=
  .bind (.print _) (.bind (.print _) (.bind (.print _) (.bind (.print _) (.bind (.print _)
    (.print _)))))

/-- The one way to fail is through the first two cases of the trap suite. -/
theorem allPassed_eq (available table vector : Bool) :
    (Tally.ofVerdicts ([if available then .pass else .skip, .pass, .pass, .pass, .pass] ++
      [.ofBool table, .ofBool vector, .pass, .pass, .pass, .pass, .pass, .pass,
        .pass])).allPassed = (table && vector) := by
  cases available <;> cases table <;> cases vector <;> rfl

theorem sound_iff (entry : Nat) :
    ((Code.all.all fun c => σ.table.get c = some .debug) &&
      decide (σ.trapVector = BitVec.ofNat 32 entry)) = true ↔ sound σ entry := by
  rw [Bool.and_eq_true, List.all_eq_true, decide_eq_true_eq]
  refine and_congr ⟨fun all c => ?_, fun all c _ => decide_eq_true (all c)⟩ Iff.rfl
  exact of_decide_eq_true (all c (Code.mem_all c))

/-- **The self tests, from any setting.** -/
theorem run_reaches (genuine : r.Genuine)
    (width : r.dispatcher.config.frameRegisters = 16 ∨ r.dispatcher.config.frameRegisters = 32)
    (σ : Setting) :
    ∃ passed bench, (passed = true ↔ sound σ r.entry) ∧
      Reaches σ (SelfTest.run r) passed (cleaned σ bench) := by
  let fresh := σ.timed σ.bench.hits 0#64 (BitVec.allOnes 64)
  obtain ⟨bench, trapCases⟩ := trapCases_reach (σ := fresh) genuine width rfl
  have console := (consoleCases_reach (σ := fresh)).perform .zero
  have trap : Reaches fresh ((trapSuite r).perform _) _ _ := trapCases.perform
    (Tally.ofVerdicts [if fresh.available then .pass else .skip, .pass, .pass, .pass, .pass])
  refine ⟨_, bench, ?_, .bind (.modify (g := fun σ => σ.timed σ.bench.hits 0#64 (BitVec.allOnes 64))
    fun _ => rfl) <| .bind console <| .bind trap <| .bind (printSummary_reaches _) <|
    .ite (fun _ => .bind (.print _) (.pure _)) (fun _ => .bind (.print _) (.pure _))⟩
  rw [Tally.ofVerdicts, ← List.foldl_append]
  exact (allPassed_eq ..) ▸ sound_iff r.entry

/-! ### Machines -/

/-- What the self tests leave behind on a machine. -/
structure Restores (m after : Machine) : Prop where
  probed : ∀ c ∈ probedCodes, after.table.get c = some .debug
  others : ∀ c ∉ probedCodes, after.table.get c = m.table.get c
  status : after.hart.csrs.status = m.hart.csrs.status
  trapVector : after.hart.csrs.trapVector = m.hart.csrs.trapVector
  interruptEnable : after.hart.csrs.interruptEnable = m.hart.csrs.interruptEnable &&& ~~~(1#32 <<< 7)
  available : after.recorder.available = m.recorder.available
  visits : after.visits = m.visits

/-- The probed slots of a cleaned setting hold the debug handler, the others are as before. -/
theorem cleaned_get (bench : Bench) (c : Code) :
    (cleaned σ bench).table.get c = if c ∈ probedCodes then some .debug else σ.table.get c := by
  unfold cleaned Setting.install probedCodes
  simp only [VectorTable.get_install, List.mem_cons, List.not_mem_nil, or_false]
  grind

theorem Restores.of_setting {m after : Machine} {bench : Bench}
    (left : after.setting = cleaned m.setting bench) : Restores m after where
  probed c probed := by
    have table : after.table = (cleaned m.setting bench).table := congrArg Setting.table left
    rw [table, cleaned_get, if_pos probed]
  others c other := by
    have table : after.table = (cleaned m.setting bench).table := congrArg Setting.table left
    rw [table, cleaned_get, if_neg other]
    rfl
  status := congrArg Setting.status left
  trapVector := congrArg Setting.trapVector left
  interruptEnable := congrArg Setting.interruptEnable left
  available := congrArg Setting.available left
  visits := congrArg Setting.visits left

end SelfTest

open SelfTest

variable {s : Scenario}
  (width : s.config.frameRegisters = 16 ∨ s.config.frameRegisters = 32)

include width

/-- **One run on a machine**, whatever the scripted handlers do. -/
theorem Scenario.perform_selfTest (scripts : Nat → Act Unit) (m : Machine) :
    ∃ passed after,
      s.perform (Handler.behaviour s.native scripts) .selfTest m = .ok (.flag passed) after ∧
      (passed = true ↔ (∀ c, m.table.get c = some .debug) ∧
        m.hart.csrs.trapVector = BitVec.ofNat 32 s.entry) ∧
      Restores m after := by
  let r : Rig := ⟨s.native, s.entry, Handler.behaviour s.native scripts⟩
  have genuine : r.Genuine := ⟨rfl, fun _ => rfl⟩
  obtain ⟨passed, bench, verdict, reaches⟩ := run_reaches genuine width m.setting
  obtain ⟨after, ran, left⟩ := reaches m rfl
  exact ⟨passed, after, bind_of_ok ran _, verdict, .of_setting left⟩

namespace Board

variable {n : Nat}

omit width in
/-- A step whose operation returns. -/
theorem step_of_ok {b : Board n} {i : Fin n} {op : Op} {reply : Reply} {after : Machine}
    (ran : s.perform s.behaviour op (b.machine i) = .ok reply after) :
    b.step s i op = (b.update i after,
      ⟨.ok reply, after.hart.csrs, after.hart.fences, after.recorder.text, after.visits⟩) := by
  unfold step
  rw [outcome_of_ok ran]

/-- **One run on a board.** -/
theorem selfTest_step (b : Board n) (i : Fin n) :
    ∃ passed, (b.step s i .selfTest).2.reply = .ok (.flag passed) ∧
      (passed = true ↔ (∀ c, b.table.get c = some .debug) ∧
        (b.hart i).csrs.trapVector = BitVec.ofNat 32 s.entry) ∧
      Restores (b.machine i) ((b.step s i .selfTest).1.machine i) ∧
      (b.step s i .selfTest).2.visits = [] := by
  obtain ⟨passed, after, ran, verdict, restores⟩ :=
    s.perform_selfTest width (s.runScript (s.nesting.depth + 1)) (b.machine i)
  have hart := b.update_hart_self i after
  rw [step_of_ok ran]
  refine ⟨passed, rfl, verdict, ⟨restores.probed, restores.others, ?_, ?_, ?_, restores.available,
    rfl⟩, restores.visits⟩
  · exact (congrArg (·.csrs.status) hart).trans restores.status
  · exact (congrArg (·.csrs.trapVector) hart).trans restores.trapVector
  · exact (congrArg (·.csrs.interruptEnable) hart).trans restores.interruptEnable

/-- A table that is full of debug handlers stays so. -/
theorem selfTest_keeps_debug {b : Board n} (debug : ∀ c, b.table.get c = some .debug) (i : Fin n)
    (c : Code) : (b.step s i .selfTest).1.table.get c = some .debug := by
  obtain ⟨_, _, _, restores, _⟩ := selfTest_step width b i
  rw [← machine_table _ i]
  by_cases probed : c ∈ probedCodes
  · exact restores.probed c probed
  · exact (restores.others c probed).trans (debug c)

/-- **Any number of runs**, by induction: the answer is the same every time. -/
theorem selfTest_replies {b : Board n} (debug : ∀ c, b.table.get c = some .debug) (i : Fin n)
    (runs : Nat) :
    (b.run s (List.replicate runs (i, .selfTest))).2.map StepReport.reply =
      List.replicate runs
        (.ok (.flag ((b.hart i).csrs.trapVector = BitVec.ofNat 32 s.entry))) := by
  induction runs generalizing b with
  | zero => rfl
  | succ runs ih =>
      obtain ⟨passed, reply, verdict, restores, -⟩ := selfTest_step width b i
      have answer : passed = decide ((b.hart i).csrs.trapVector = BitVec.ofNat 32 s.entry) := by
        rw [Bool.eq_iff_iff, verdict, decide_eq_true_eq]
        exact and_iff_right debug
      have vector := restores.trapVector
      rw [machine_hart, machine_hart] at vector
      have rest := ih (selfTest_keeps_debug width debug i)
      rw [vector] at rest
      rw [List.replicate_succ, List.replicate_succ, run, List.map_cons, rest, reply, answer]

omit width

/-- The start of a session on the primary hart fills the table and sets the trap vector. -/
theorem start_step {b : Board n} {i : Fin n}
    (primary : (b.hart i).csrs.hartId = s.config.primaryHart) :
    (b.step s i .start).2.reply = .ok .nothing ∧
      (∀ c, (b.step s i .start).1.table.get c = some .debug) ∧
      ((b.step s i .start).1.hart i).csrs.trapVector = BitVec.ofNat 32 s.entry &&& ~~~3#32 := by
  have filled : (b.machine i).hart.csrs.hartId = s.config.primaryHart := primary
  have started : s.perform s.behaviour .start (b.machine i) = .ok .nothing _ :=
    bind_of_ok (s.start_apply (b.machine i)) _
  rw [step_of_ok started]
  refine ⟨rfl, fun c => ?_, ?_⟩
  · refine (congrArg (·.get c) (Machine.print_table ..)).trans ?_
    change VectorTable.get (if _ then _ else _) c = _
    rw [if_pos filled, VectorTable.get_fill]
  · rw [update_hart_self, Machine.print_hart]
    rfl

/-- The trap vector drops the two lowest bits of the entry address. -/
theorem direct_vector_iff (entry : Nat) :
    BitVec.ofNat 32 entry &&& ~~~3#32 = BitVec.ofNat 32 entry ↔ entry % 4 = 0 := by
  rw [← BitVec.toNat_inj, Word.toNat_and_not_three, BitVec.toNat_ofNat]
  omega

/-- **The verdict of the self tests, and that they clean up.** On every machine, whatever the table
holds and whatever the scripted handlers would do if they were called, a run returns. Its answer is
true exactly if every slot held the debug handler and the trap vector was the entry address. It
leaves debug handlers in the four slots that it probes and everything in the other slots, the status
register and the trap vector as they were, and takes away the enable of the timer alone. On a board
no other hart is touched. After the start of a session on the primary hart every one of any number of
runs passes, if the entry address is a multiple of four, as the trap vector requires. -/
theorem selfTest_judges_and_restores (s : Scenario)
    (width : s.config.frameRegisters = 16 ∨ s.config.frameRegisters = 32) :
    (∀ (scripts : Nat → Act Unit) (m : Machine), ∃ passed after,
      s.perform (Handler.behaviour s.native scripts) .selfTest m = .ok (.flag passed) after ∧
      (passed = true ↔ (∀ c, m.table.get c = some .debug) ∧
        m.hart.csrs.trapVector = BitVec.ofNat 32 s.entry) ∧
      Restores m after) ∧
    (∀ (n : Nat) (b : Board n) (i : Fin n), ∃ passed,
      (b.step s i .selfTest).2.reply = .ok (.flag passed) ∧
      (passed = true ↔ (∀ c, b.table.get c = some .debug) ∧
        (b.hart i).csrs.trapVector = BitVec.ofNat 32 s.entry) ∧
      Restores (b.machine i) ((b.step s i .selfTest).1.machine i) ∧
      (b.step s i .selfTest).2.visits = [] ∧
      ∀ j ≠ i, (b.step s i .selfTest).1.hart j = b.hart j) ∧
    ∀ (n : Nat) (b : Board n) (i : Fin n), (b.hart i).csrs.hartId = s.config.primaryHart →
      ∀ runs, (b.run s ((i, .start) :: List.replicate runs (i, .selfTest))).2.map StepReport.reply =
        .ok .nothing :: List.replicate runs (.ok (.flag (s.entry % 4 = 0))) := by
  refine ⟨s.perform_selfTest width, ?_, ?_⟩
  · intro n b i
    obtain ⟨passed, reply, verdict, restores, visits⟩ := selfTest_step width b i
    exact ⟨passed, reply, verdict, restores, visits, fun j other => step_hart_ne s b other _⟩
  · intro n b i primary runs
    obtain ⟨reply, debug, vector⟩ := start_step primary
    have replies := selfTest_replies width debug i runs
    have aligned : decide (BitVec.ofNat 32 s.entry &&& ~~~3#32 = BitVec.ofNat 32 s.entry) =
        decide (s.entry % 4 = 0) := decide_eq_decide.mpr (direct_vector_iff s.entry)
    rw [vector, aligned] at replies
    rw [run, List.map_cons, reply, replies]

/-! Two harts, an entry address that is a multiple of four, and two runs on the primary one. -/

theorem selfTest_passes_twice :
    Config.default.frameRegisters = 32 ∧
      ((⟨#v[Hart.initial 0#32, Hart.initial 1#32], .empty, true⟩ : Board 2).run
        ⟨Config.default, 0x80000040, fun _ => []⟩
        [(0, .start), (0, .selfTest), (0, .selfTest)]).2.map StepReport.reply =
          [.ok .nothing, .ok (.flag true), .ok (.flag true)] := by
  have judges := selfTest_judges_and_restores ⟨Config.default, 0x80000040, fun _ => []⟩ (.inr rfl)
  exact ⟨rfl, judges.2.2 2 ⟨#v[Hart.initial 0#32, Hart.initial 1#32], .empty, true⟩ 0 rfl 2⟩

end Board

end TrapDispatch
