import TrapDispatch.Board
import TrapDispatch.Proofs.DiagnosticLine
import TrapDispatch.Proofs.WholeTrap

/-!
Harts that share a vector table and a console do not interfere through anything else.

Two runs are compared: one with all steps, and one without the steps of a hart `j`. They go through
boards that differ in hart `j` alone (`AgreeBut`), as long as no step of hart `j` leaves the table or
the availability of the console changed (`Unobtrusive`).

* `step_agree`: a step of another hart shows the same on two such boards, and leaves two such boards.
* `AgreeBut.of_shared`: a step of hart `j` that keeps what is shared may be left out.
* `run_without_agree`: so may all of them, by induction over the run.
* `step_trap_agree`: a trap that finds an empty slot or the debug handler is such a step, whether it
  halts or not.
-/

namespace TrapDispatch

namespace Board

variable {n : Nat} {s : Scenario} {j : Fin n} {b b' b'' : Board n}

/-! ### Boards that differ in one hart -/

/-- Boards that agree on the table, on the console and on all harts but one. -/
structure AgreeBut (j : Fin n) (b b' : Board n) : Prop where
  harts : ∀ k ≠ j, b.hart k = b'.hart k
  table : b.table = b'.table
  available : b.available = b'.available

theorem AgreeBut.refl (j : Fin n) (b : Board n) : AgreeBut j b b := ⟨fun _ _ => rfl, rfl, rfl⟩

theorem AgreeBut.trans (first : AgreeBut j b b') (second : AgreeBut j b' b'') : AgreeBut j b b'' where
  harts k other := (first.harts k other).trans (second.harts k other)
  table := first.table.trans second.table
  available := first.available.trans second.available

/-- A step starts from its own hart and from what is shared, so it sees no difference in any other
hart. -/
theorem AgreeBut.machine_eq (agree : AgreeBut j b b') {i : Fin n} (other : i ≠ j) :
    b.machine i = b'.machine i := by
  unfold machine
  have same : b.harts[i] = b'.harts[i] := agree.harts i other
  rw [same, agree.table, agree.available]

/-- A step of another hart shows the same on both boards, and they still differ in hart `j` alone. -/
theorem step_agree (agree : AgreeBut j b b') {i : Fin n} (other : i ≠ j) (op : Op) :
    (b.step s i op).2 = (b'.step s i op).2 ∧
      AgreeBut j (b.step s i op).1 (b'.step s i op).1 := by
  unfold step
  rw [agree.machine_eq other]
  refine ⟨rfl, ?_, rfl, rfl⟩
  intro k kept
  by_cases same : k = i
  · rw [same, update_hart_self, update_hart_self]
  · rw [update_hart_ne b same, update_hart_ne b' same, agree.harts k kept]

/-! ### Runs without the steps of a hart -/

/-- Hart `j` leaves the table and the availability of the console as they are in each of its steps. -/
def Unobtrusive (s : Scenario) (j : Fin n) : Board n → List (Fin n × Op) → Prop
  | _, [] => True
  | b, (i, op) :: steps =>
    (i = j → (b.step s i op).1.table = b.table ∧ (b.step s i op).1.available = b.available) ∧
      Unobtrusive s j (b.step s i op).1 steps

/-- A step of hart `j` that leaves what is shared as it was leaves a board that differs in hart `j`
alone. -/
theorem AgreeBut.of_shared {op : Op} (table : (b.step s j op).1.table = b.table)
    (available : (b.step s j op).1.available = b.available) :
    AgreeBut j (b.step s j op).1 b where
  harts _ other := step_hart_ne s b other op
  table := table
  available := available

/-- The steps of all harts but one. -/
def without (j : Fin n) (steps : List (Fin n × Op)) : List (Fin n × Op) :=
  steps.filter fun step => step.1 ≠ j

/-- Of the reports of a run, those of the steps of all harts but one. -/
def reportsWithout (j : Fin n) (steps : List (Fin n × Op)) (reports : List StepReport) :
    List StepReport :=
  ((steps.zip reports).filter fun shown => shown.1.1 ≠ j).map Prod.snd

/-- The run without the steps of hart `j` goes along with the full run. -/
theorem run_without_agree (agree : AgreeBut j b b') (steps : List (Fin n × Op))
    (unobtrusive : Unobtrusive s j b steps) :
    (b'.run s (without j steps)).2 = reportsWithout j steps (b.run s steps).2 ∧
      AgreeBut j (b.run s steps).1 (b'.run s (without j steps)).1 := by
  induction steps generalizing b b' with
  | nil => exact ⟨rfl, agree⟩
  | cons step steps ih =>
      obtain ⟨i, op⟩ := step
      obtain ⟨alone, later⟩ := unobtrusive
      by_cases own : i = j
      · -- The step is left out, and the other run stays where it is.
        subst own
        obtain ⟨table, available⟩ := alone rfl
        have shorter := ih ((AgreeBut.of_shared table available).trans agree) later
        simpa [run, without, reportsWithout] using shorter
      · -- Both runs make the step.
        obtain ⟨shown, agree⟩ := step_agree (s := s) agree own op
        have longer := ih agree later
        simpa [run, without, reportsWithout, own, shown] using longer

end Board

/-! ### Traps that the debug handler takes -/

/-- What a machine shares with the other harts. -/
def Machine.shared (m : Machine) : VectorTable × Bool := (m.table, m.recorder.available)

theorem Dispatcher.debugHandler_keeps_shared (d : Dispatcher) :
    d.debugHandler.Keeps Machine.shared := by
  rw [debugHandler_eq]
  exact d.debugReport_keeps (fun c _ _ => by cases c <;> rfl) (fun _ _ => rfl) _

/-- An empty slot and the debug handler keep what is shared. -/
theorem Scenario.call_keeps_shared (s : Scenario) {slot : Option Handler}
    (default : slot = none ∨ slot = some .debug) :
    (Dispatcher.call s.behaviour slot).Keeps Machine.shared := by
  rcases default with rfl | rfl
  · exact .pure ()
  · exact s.native.debugHandler_keeps_shared

theorem Op.entered_shared (op : Op) (m : Machine) : (op.entered m).shared = m.shared := by
  cases op <;> rfl

namespace Board

variable {n : Nat}

/-- A trap that calls no handler or the debug handler reaches its own hart alone. It does not matter
whether it halts. -/
theorem step_trap_agree {s : Scenario} {j : Fin n} {b : Board n} {op : Op} {c : Word}
    (trap : op.trapCause (b.hart j) = some c)
    (default : b.table.get (Cause.code ⟨c⟩) = none ∨
      b.table.get (Cause.code ⟨c⟩) = some .debug) : AgreeBut j (b.step s j op).1 b := by
  have called : (op.trapCause (b.machine j).hart) = some c := trap
  have left := s.perform_trap_view Machine.shared s.behaviour (fun _ _ => rfl) called
  have kept := s.call_keeps_shared default (op.entered (b.machine j))
  have shared : ((b.step s j op).1.table, (b.step s j op).1.available) = (b.table, b.available) :=
    left.trans (kept.trans (op.entered_shared (b.machine j)))
  obtain ⟨table, available⟩ := Prod.mk.inj shared
  exact .of_shared table available

/-- **Harts do not interfere.** A step on one hart, with all that its handlers do and however it
ends, leaves every other hart as it was. If the steps of hart `j` leave the table and the
availability of the console as they are, then without these steps every other step of the run
answers, records, leaves in its registers and traces the same, and the run ends with the same table
and the same other harts. In particular the traps that end at the debug handler, fatal ones
included, are such steps. -/
theorem harts_do_not_interfere (s : Scenario) (b : Board n) :
    (∀ (i k : Fin n) (op : Op), k ≠ i → (b.step s i op).1.hart k = b.hart k) ∧
    (∀ (j : Fin n) (steps : List (Fin n × Op)), Unobtrusive s j b steps →
      (b.run s (without j steps)).2 = reportsWithout j steps (b.run s steps).2 ∧
        AgreeBut j (b.run s steps).1 (b.run s (without j steps)).1) ∧
    ∀ (j : Fin n) (op : Op) (c : Word), op.trapCause (b.hart j) = some c →
      b.table.get (Cause.code ⟨c⟩) = some .debug → Unobtrusive s j b [(j, op)] := by
  refine ⟨?step, ?run, ?debug⟩
  case step =>
    intro i k op other
    exact step_hart_ne s b other op
  case run =>
    intro j steps unobtrusive
    exact run_without_agree (.refl j b) steps unobtrusive
  case debug =>
    intro j op c trap debug
    have agree := step_trap_agree (s := s) trap (.inr debug)
    exact ⟨fun _ => ⟨agree.table, agree.available⟩, trivial⟩

/-! Two harts: the first sets the table up, handles an environment call and reports a breakpoint; the
second halts at a fetch fault in between. -/

/-- The handler reads a register of the program. -/
def twoHartScenario : Scenario where
  config := Config.default
  entry := 0x80000000
  scripts := fun _ => [.contextGet .bitInstructions 1#32]

def twoHarts : Board 2 := ⟨#v[Hart.initial 0#32, Hart.initial 1#32], .empty, true⟩

def fetchFault : TrapEvent := ⟨Code.instructionAccessFault.bits, 0x200#32, 0#32, 0#32⟩

def twoHartSteps : List (Fin 2 × Op) :=
  [(0, .start), (0, .install Code.machineEnvCall.bits (some (.script 0))),
    (1, .trap fetchFault Frame.zero), (0, .trap Scenario.ecall Scenario.lowStack)]

/-- The table as the first hart has set it up, before the second one halts. -/
def twoHartsReady : Board 2 := (twoHarts.run twoHartScenario (twoHartSteps.take 2)).1

theorem harts_do_not_interfere_fetch_fault :
    (twoHarts.step twoHartScenario 0 .start).1.hart 1 = twoHarts.hart 1 ∧
      Unobtrusive twoHartScenario 1 twoHartsReady [(1, .trap fetchFault Frame.zero)] ∧
      (twoHarts.run twoHartScenario twoHartSteps).2.map StepReport.visits =
        [[], [], [], [⟨0, [.word 1#32]⟩]] ∧
      (twoHarts.run twoHartScenario (without 1 twoHartSteps)).2 =
        reportsWithout 1 twoHartSteps (twoHarts.run twoHartScenario twoHartSteps).2 ∧
      AgreeBut 1 (twoHarts.run twoHartScenario twoHartSteps).1
        (twoHarts.run twoHartScenario (without 1 twoHartSteps)).1 := by
  have fatal := (harts_do_not_interfere twoHartScenario twoHartsReady).2.2 1
    (.trap fetchFault Frame.zero) 1#32 rfl rfl
  have unobtrusive : Unobtrusive twoHartScenario 1 twoHarts twoHartSteps :=
    ⟨nofun, nofun, fatal.1, nofun, trivial⟩
  refine ⟨?_, fatal, rfl, ?_⟩
  · exact (harts_do_not_interfere twoHartScenario twoHarts).1 0 1 .start (by decide)
  · exact (harts_do_not_interfere twoHartScenario twoHarts).2.1 1 twoHartSteps unobtrusive

end Board

end TrapDispatch
