import TrapDispatch.SelfTest.ConsoleCases
import TrapDispatch.SelfTest.TrapCases

/-!
The self tests: the console suite, the trap suite and a summary.
-/

namespace TrapDispatch.SelfTest

/-- Run all self tests on the current hart; answers whether they passed. Every run starts at time
zero with the timer disarmed. The count and the notes that earlier runs left on the bench are still
there. -/
def run (r : Rig) : Act Bool := do
  Act.modifyBench fun b => { b with time := 0#64, deadline := BitVec.allOnes 64 }
  let tally ← consoleSuite.perform .zero
  let tally ← (trapSuite r).perform tally
  tally.printSummary
  if tally.allPassed then Act.log .info "All test suites completed successfully!"
  else Act.log .warn "Some tests failed"
  return tally.allPassed

end TrapDispatch.SelfTest
