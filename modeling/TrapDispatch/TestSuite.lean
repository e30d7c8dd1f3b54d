import TrapDispatch.Console

/-!
Test suites: cases that pass, fail or are skipped, run one after another with a line of text before
and after each, and a tally of the verdicts. Main fact: `ofVerdicts_eq`, a tally counts the verdicts
and each kind of them.
-/

namespace TrapDispatch

inductive Verdict where
  | pass
  | fail
  | skip
  deriving DecidableEq, Repr

namespace Verdict

/-- Pass if a condition holds, and fail otherwise. -/
def ofBool (condition : Bool) : Verdict := if condition then .pass else .fail

def tag : Verdict → String
  | .pass => "[PASS]"
  | .fail => "[FAIL]"
  | .skip => "[SKIP]"

def style : Verdict → LogStyle
  | .pass => .info
  | .fail => .error
  | .skip => .warn

end Verdict

/-- The verdicts so far. -/
structure Tally where
  total : Nat
  passed : Nat
  failed : Nat
  skipped : Nat
  deriving DecidableEq, Repr

namespace Tally

def zero : Tally := ⟨0, 0, 0, 0⟩

def add (t : Tally) : Verdict → Tally
  | .pass => { t with total := t.total + 1, passed := t.passed + 1 }
  | .fail => { t with total := t.total + 1, failed := t.failed + 1 }
  | .skip => { t with total := t.total + 1, skipped := t.skipped + 1 }

/-- At least one case ran and none failed. -/
def allPassed (t : Tally) : Bool := t.failed = 0 && 0 < t.total

/-- Failures are an error and skipped cases a warning, but only if there are any. -/
def printSummary (t : Tally) : Act Unit := do
  Act.log .line "=== Test Summary ==="
  Act.log .line ("Total tests: " ++ toString t.total)
  Act.log .info ("Passed: " ++ toString t.passed)
  Act.log (if 0 < t.failed then .error else .info) ("Failed: " ++ toString t.failed)
  Act.log (if 0 < t.skipped then .warn else .info) ("Skipped: " ++ toString t.skipped)
  Act.log .line "=================="

/-- The tally of a list of verdicts. -/
def ofVerdicts (vs : List Verdict) : Tally := vs.foldl add zero

theorem foldl_add (t : Tally) (vs : List Verdict) :
    vs.foldl add t = ⟨t.total + vs.length, t.passed + vs.count .pass, t.failed + vs.count .fail,
      t.skipped + vs.count .skip⟩ := by
  induction vs generalizing t with
  | nil => rfl
  | cons v vs ih =>
    rw [List.foldl_cons, ih]
    cases v <;> simp [add] <;> omega

/-- The four counts are the number of verdicts and of each kind of verdict. -/
theorem ofVerdicts_eq (vs : List Verdict) :
    ofVerdicts vs = ⟨vs.length, vs.count .pass, vs.count .fail, vs.count .skip⟩ := by
  simp [ofVerdicts, foldl_add, zero]

end Tally

structure TestCase where
  name : String
  description : String
  run : Act Verdict

namespace TestCase

/-- A case that prints its verdict and does nothing else. -/
def fixed (name description : String) (verdict : Verdict) : TestCase where
  name
  description
  run := do
    Act.print (match verdict with
      | .pass => "<pass>"
      | .fail => "<fail>"
      | .skip => "<skip>")
    return verdict

/-- Run a case and count its verdict. -/
def perform (c : TestCase) (t : Tally) : Act Tally := do
  Act.log .line ("Running test: " ++ c.name ++ " - " ++ c.description)
  let verdict ← c.run
  Act.log verdict.style ("  " ++ verdict.tag ++ " " ++ c.name)
  return t.add verdict

/-- Run cases in order. -/
def performAll : List TestCase → Tally → Act Tally
  | [], t => return t
  | c :: cs, t => do performAll cs (← c.perform t)

end TestCase

structure TestSuite where
  name : String
  cases : List TestCase

/-- Run the cases of a suite between its header and its footer. -/
def TestSuite.perform (s : TestSuite) (t : Tally) : Act Tally := do
  Act.log .line ("=== " ++ s.name ++ " Test Suite ===")
  let t ← TestCase.performAll s.cases t
  Act.log .line ("=== " ++ s.name ++ " Test Suite Complete ===")
  return t

/-! ### Commands to a test run -/

inductive SuiteCommand where
  | suite (suite : TestSuite)
  | summary
  /-- Switch the registered console on or off. -/
  | console (available : Bool)

def SuiteCommand.run (t : Tally) : SuiteCommand → Act Tally
  | .suite s => s.perform t
  | .summary => do
    t.printSummary
    return t
  | .console available => do
    modify fun m => { m with recorder := { m.recorder with available } }
    return t

/-- Run commands in order. For each, whether all cases so far have passed and the text that it
printed; a command that stops leaves the tally as it was. -/
def SuiteCommand.runAll (t : Tally) (m : Machine) : List SuiteCommand → List (Bool × String)
  | [] => []
  | c :: cs =>
    match c.run t { m with recorder := { m.recorder with text := "" } } with
    | .ok t m => (t.allPassed, m.recorder.text) :: runAll t m cs
    | .error _ m => (t.allPassed, m.recorder.text) :: runAll t m cs

end TrapDispatch
