import TrapDispatch.Proofs.TableOperations
import TrapDispatch.SelfTest

/-!
The history of the self tests. The console suite and all that is printed keep the table, and with it
every view of the machine that printing keeps. A case of the trap suite installs its handler, takes
its traps and installs the debug handler again, so its history is made of installs and traps and of
what the handlers do; the timer test may take a trap on every turn of its waiting loop.

* `History.selfTest`: the history of all of it.
-/

namespace TrapDispatch

open Act

/-! ### Test cases that take no trap

They print and change nothing else, so they keep every view that printing keeps. -/

section

variable {γ : Type} {view : Machine → γ} (prints : ∀ text, (Act.print text).Keeps view)

include prints

namespace TestCase

theorem perform_keeps {c : TestCase} (h : c.run.Keeps view) (t : Tally) : (c.perform t).Keeps view :=
  .bind (prints _) fun _ => .bind h fun _ => .bind (prints _) fun _ => .pure _

theorem performAll_keeps (cases : List TestCase) (h : ∀ c ∈ cases, c.run.Keeps view) (t : Tally) :
    (performAll cases t).Keeps view := by
  induction cases generalizing t with
  | nil => exact .pure t
  | cons c cases ih =>
      have first := perform_keeps prints (h c List.mem_cons_self) t
      exact .bind first fun t => ih (fun d hd => h d (List.mem_cons_of_mem c hd)) t

end TestCase

theorem TestSuite.perform_keeps {s : TestSuite} (h : ∀ c ∈ s.cases, c.run.Keeps view) (t : Tally) :
    (s.perform t).Keeps view :=
  .bind (prints _) fun _ => .bind (TestCase.performAll_keeps prints s.cases h t) fun _ =>
    .bind (prints _) fun _ => .pure _

theorem Tally.printSummary_keeps (t : Tally) : t.printSummary.Keeps view :=
  .bind (prints _) fun _ => .bind (prints _) fun _ => .bind (prints _) fun _ =>
    .bind (prints _) fun _ => .bind (prints _) fun _ => prints _

namespace SelfTest

theorem stringOutput_keeps : stringOutput.Keeps view := by
  refine .bind ?_ fun _ => .bind (prints _) fun _ => .pure _
  rw [printChars_eq]
  exact prints _

theorem hexOutput_keeps : hexOutput.Keeps view :=
  .bind (prints _) fun _ => .bind (prints _) fun _ => .bind (prints _) fun _ =>
    .bind (prints _) fun _ => .bind (prints _) fun _ => .pure _

theorem logStyles_keeps : logStyles.Keeps view :=
  .bind (prints _) fun _ => .bind (prints _) fun _ => .bind (prints _) fun _ =>
    .bind (prints _) fun _ => .bind (prints _) fun _ => .pure _

theorem consoleSuite_keeps (t : Tally) : (consoleSuite.perform t).Keeps view := by
  refine TestSuite.perform_keeps prints ?_ t
  simp only [consoleSuite, List.forall_mem_cons]
  refine ⟨?backend, ?string, ?hex, ?styles, ?capture, ?none⟩
  case backend => exact fun _ => rfl
  case string => exact stringOutput_keeps prints
  case hex => exact hexOutput_keeps prints
  case styles => exact logStyles_keeps prints
  case capture => exact fun _ => rfl
  case none => exact List.forall_mem_nil _

end SelfTest

end

namespace SelfTest

variable {γ : Type} {view : Machine → γ}

theorem defaultTable_keeps : defaultTable.Keeps view := .bind .get fun _ => .pure _

theorem trapVector_keeps (r : Rig) : (trapVector r).Keeps view := .bind (.read _) fun _ => .pure _

end SelfTest

/-! ### The trap suite -/

namespace History

open SelfTest

variable {primary : Word}

/-- A handler is installed, the check is made, and the debug handler is installed again. -/
def withHandler (c : Code) (slot : Option Handler) {check : Act Bool}
    (hc : History primary check) : History primary (SelfTest.withHandler c slot check) :=
  bind (install c.bits slot) fun
    | .error _ => quiet (.pure _)
    | .ok () => bind hc fun _ => bind (install c.bits (some .debug)) fun
      | .error _ => quiet (.pure _)
      | .ok () => quiet (.pure _)

def allRefused : (words : List Word) → History primary (SelfTest.allRefused words)
  | [] => quiet (.pure _)
  | w :: ws => bind (install w _) fun
    | .ok () => quiet (.pure _)
    | .error _ => allRefused ws

def installRejectsInvalid : History primary SelfTest.installRejectsInvalid :=
  bind (quiet (.slot _)) fun _ => bind (allRefused _) fun _ =>
    quiet (.bind (.slot _) fun _ => .pure _)

section

variable {r : Rig} (hb : ∀ h, History primary (r.behaviour h))

include hb

/-- One turn of the waiting loop takes at most one trap. -/
def spin : History primary (SelfTest.spin r) :=
  bind (quiet (.modify fun _ => rfl)) fun _ => bind (quiet .get) fun _ =>
    ite (bind (trap r.dispatcher hb _ _) fun _ => quiet (.pure _)) (quiet (.pure _))

def awaitHit : (turns : Nat) → History primary (SelfTest.awaitHit r turns)
  | 0 => quiet (.pure _)
  | turns + 1 => bind (quiet fun _ => rfl) fun _ =>
    ite (bind (spin hb) fun _ => awaitHit turns) (quiet (.pure _))

def illegalInstruction : History primary (SelfTest.illegalInstruction r) :=
  withHandler _ _ <| bind (quiet fun _ => rfl) fun _ => bind (quiet fun _ => rfl) fun _ =>
    bind (trap r.dispatcher hb _ _) fun _ => quiet fun _ => rfl

def breakpointTwice : History primary (SelfTest.breakpointTwice r) :=
  withHandler _ _ <| bind (quiet fun _ => rfl) fun _ => bind (trap r.dispatcher hb _ _) fun _ =>
    bind (trap r.dispatcher hb _ _) fun _ => quiet fun _ => rfl

def defaultHandlerResumes : History primary (SelfTest.defaultHandlerResumes r) :=
  bind (trap r.dispatcher hb _ _) fun _ => quiet (.pure _)

def clearedSlotResumes : History primary (SelfTest.clearedSlotResumes r) :=
  withHandler _ _ <| bind (quiet (.slot _)) fun _ => bind (trap r.dispatcher hb _ _) fun _ =>
    quiet (.pure _)

def ecallContext : History primary (SelfTest.ecallContext r) :=
  withHandler _ _ <| bind (trap r.dispatcher hb _ _) fun _ =>
    quiet (.bind (print_keeps_table _) fun _ => .bind .get fun _ => .pure _)

def machineTimer : History primary (SelfTest.machineTimer r) :=
  withHandler _ _ <| bind (quiet (.modify fun _ => rfl)) fun _ =>
    bind (quiet (.modify fun _ => rfl)) fun _ => bind (quiet fun _ => rfl) fun _ =>
    bind (quiet (.ite (fun _ => rfl) (.pure _))) fun _ => bind (quiet fun _ => rfl) fun _ =>
    bind (awaitHit hb spinLimit) fun _ =>
    quiet (.bind (fun _ => rfl) fun _ => .bind (.ite (fun _ => rfl) (.pure _)) fun _ =>
      .bind (.modify fun _ => rfl) fun _ => .bind (.ite (fun _ => rfl) (.pure _)) fun _ =>
      .bind .get fun _ => .pure _)

end

/-- The cases of a suite, one after another. -/
def cons {c : TestCase} {cases : List TestCase} (hc : History primary c.run)
    (rest : ∀ t, History primary (TestCase.performAll cases t)) (t : Tally) :
    History primary (TestCase.performAll (c :: cases) t) :=
  bind
    (bind (quiet (print_keeps_table _)) fun _ => bind hc fun _ =>
      quiet (.bind (print_keeps_table _) fun _ => .pure _))
    rest

def trapCases {r : Rig} (hb : ∀ h, History primary (r.behaviour h)) :
    (t : Tally) → History primary (TestCase.performAll (SelfTest.trapSuite r).cases t) :=
  cons (quiet defaultTable_keeps) <|
  cons (quiet (trapVector_keeps r)) <|
  cons installRejectsInvalid <|
  cons (illegalInstruction hb) <|
  cons (breakpointTwice hb) <|
  cons (defaultHandlerResumes hb) <|
  cons (clearedSlotResumes hb) <|
  cons (ecallContext hb) <|
  cons (machineTimer hb) fun _ => quiet (.pure _)

def trapSuite {r : Rig} (hb : ∀ h, History primary (r.behaviour h)) (t : Tally) :
    History primary ((SelfTest.trapSuite r).perform t) :=
  bind (quiet (print_keeps_table _)) fun _ => bind (trapCases hb _) fun _ =>
    quiet (.bind (print_keeps_table _) fun _ => .pure _)

/-- The self tests, given the histories of the handlers. -/
def selfTest {r : Rig} (hb : ∀ h, History primary (r.behaviour h)) :
    History primary (SelfTest.run r) :=
  bind (quiet (.modify fun _ => rfl)) fun _ =>
    bind (quiet (consoleSuite_keeps print_keeps_table _)) fun _ => bind (trapSuite hb _) fun t =>
    quiet (.bind (t.printSummary_keeps print_keeps_table) fun _ =>
      .ite (.bind (print_keeps_table _) fun _ => .pure _)
        (.bind (print_keeps_table _) fun _ => .pure _))

end History

end TrapDispatch
