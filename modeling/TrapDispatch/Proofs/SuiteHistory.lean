import TrapDispatch.Proofs.Actions
import TrapDispatch.TestSuite

/-!
The history of a test run: suites, summaries and switches of the console, one command after another.

* `Tally.counts_ofVerdicts`, `Tally.ofVerdicts_perm`: a tally counts verdicts, in whatever order
  they came.
* `Chain.performAll`: runs of cases that follow each other are what running the cases does, and
  `Chain.recorder` is what they put on record, line by line.
* `TestHistory.tally_eq`: the tally after commands, by induction over them.
* `suites_tally_and_report`: a test run counts every verdict once and reports each case in its
  place.

A case is any action on the machine. What it did in one run is a `CaseRun`: the machine that it
found, the verdict that it returned and the machine that it left.
-/

namespace TrapDispatch

open Act

/-! ### What a tally counts -/

namespace Tally

/-- A tally that counts just these verdicts. -/
structure Counts (t : Tally) (verdicts : List Verdict) : Prop where
  total_eq : t.total = verdicts.length
  passed_eq : t.passed = verdicts.count .pass
  failed_eq : t.failed = verdicts.count .fail
  skipped_eq : t.skipped = verdicts.count .skip
  total_eq_add : t.total = t.passed + t.failed + t.skipped
  allPassed_iff : t.allPassed = true ↔ verdicts ≠ [] ∧ .fail ∉ verdicts

/-- Every verdict is of one of the three kinds. -/
theorem length_eq_add_counts (verdicts : List Verdict) :
    verdicts.length = verdicts.count .pass + verdicts.count .fail + verdicts.count .skip := by
  induction verdicts with
  | nil => rfl
  | cons v verdicts ih =>
      cases v <;> simp [ih] <;> omega

theorem counts_ofVerdicts (verdicts : List Verdict) : (ofVerdicts verdicts).Counts verdicts := by
  rw [ofVerdicts_eq]
  refine ⟨rfl, rfl, rfl, rfl, length_eq_add_counts verdicts, ?_⟩
  unfold allPassed
  rw [Bool.and_eq_true, decide_eq_true_eq, decide_eq_true_eq, List.count_eq_zero,
    List.length_pos_iff]
  exact and_comm

/-- A tally forgets the order of the verdicts. -/
theorem ofVerdicts_perm {vs ws : List Verdict} (same : vs.Perm ws) :
    ofVerdicts vs = ofVerdicts ws := by
  simp only [ofVerdicts_eq, same.length_eq, same.count_eq]

/-- The text of a summary: four counts between two lines. -/
def summary (t : Tally) : String := String.join [
  "=== Test Summary ===\n",
  "Total tests: " ++ toString t.total ++ "\n",
  "\x1b[32m[INFO] " ++ ("Passed: " ++ toString t.passed) ++ "\x1b[0m\n",
  (if 0 < t.failed then "\x1b[31m[ERROR] " else "\x1b[32m[INFO] ") ++
    ("Failed: " ++ toString t.failed) ++ "\x1b[0m\n",
  (if 0 < t.skipped then "\x1b[33m[WARN] " else "\x1b[32m[INFO] ") ++
    ("Skipped: " ++ toString t.skipped) ++ "\x1b[0m\n",
  "==================\n"]

theorem printSummary_eq (t : Tally) : t.printSummary = print t.summary := by
  rw [summary, ← forM_print]
  simp only [List.forM, bind_pure_unit]
  unfold printSummary
  split <;> split <;> rfl

end Tally

/-! ### The lines around a case -/

namespace TestCase

/-- The line that announces a case. -/
def announcement (c : TestCase) : String :=
  "Running test: " ++ c.name ++ " - " ++ c.description ++ "\n"

/-- The line of a verdict on a case: a pass is a note, a failure an error, a skipped case a
warning. -/
def verdictLine (c : TestCase) : Verdict → String
  | .pass => "\x1b[32m[INFO] " ++ ("  [PASS] " ++ c.name) ++ "\x1b[0m\n"
  | .fail => "\x1b[31m[ERROR] " ++ ("  [FAIL] " ++ c.name) ++ "\x1b[0m\n"
  | .skip => "\x1b[33m[WARN] " ++ ("  [SKIP] " ++ c.name) ++ "\x1b[0m\n"

/-- A case returns a verdict on every machine. -/
def Returns (c : TestCase) : Prop := ∀ m, ∃ verdict left, c.run m = .ok verdict left

/-- A case is run between its two lines, and its verdict is counted. -/
theorem perform_eq (c : TestCase) (t : Tally) : c.perform t = (do
    print c.announcement
    let verdict ← c.run
    print (c.verdictLine verdict)
    return t.add verdict) := by
  unfold perform
  congr 1
  funext _
  congr 1
  funext verdict
  cases verdict <;> rfl

end TestCase

namespace TestSuite

def header (s : TestSuite) : String := "=== " ++ s.name ++ " Test Suite ===" ++ "\n"

def footer (s : TestSuite) : String := "=== " ++ s.name ++ " Test Suite Complete ===" ++ "\n"

end TestSuite

/-! ### Runs of cases -/

/-- One run of a case that returned. -/
structure CaseRun where
  test : TestCase
  /-- The machine that the case found. -/
  found : Machine
  verdict : Verdict
  /-- The machine that the case left. -/
  left : Machine
  returned : test.run found = .ok verdict left

namespace CaseRun

/-- The case itself put this text on record, and it left the console available. -/
def Prints (r : CaseRun) (output : String) : Prop :=
  r.left.recorder = ⟨true, r.found.recorder.text ++ output⟩

/-- What is recorded of a case: it is announced, it prints, and its verdict is told. -/
def text (r : CaseRun) (output : String) : String :=
  r.test.announcement ++ output ++ r.test.verdictLine r.verdict

theorem perform_eq_ok (r : CaseRun) {m : Machine} (found : r.found = m.print r.test.announcement)
    (t : Tally) : r.test.perform t m =
      .ok (t.add r.verdict) (r.left.print (r.test.verdictLine r.verdict)) := by
  have ran : r.test.run (m.print r.test.announcement) = .ok r.verdict r.left := found ▸ r.returned
  rw [TestCase.perform_eq]
  exact (bind_of_ok (print_run _ m) _).trans <| (bind_of_ok ran _).trans <|
    bind_of_ok (print_run _ r.left) _

end CaseRun

/-- Runs of cases one after another, from one machine to another. Each case finds the machine that
is left when the verdict on the one before it has been told and the case itself has been
announced. -/
inductive Chain : Machine → List CaseRun → Machine → Prop where
  | nil (m : Machine) : Chain m [] m
  | cons {m left : Machine} {r : CaseRun} {runs : List CaseRun} :
      r.found = m.print r.test.announcement →
      Chain (r.left.print (r.test.verdictLine r.verdict)) runs left → Chain m (r :: runs) left

namespace Chain

variable {m left : Machine} {runs : List CaseRun}

/-- Running the cases of a chain goes along it and counts its verdicts. -/
theorem performAll (chain : Chain m runs left) (t : Tally) :
    TestCase.performAll (runs.map CaseRun.test) t m =
      .ok ((runs.map CaseRun.verdict).foldl Tally.add t) left := by
  induction chain generalizing t with
  | nil m => rfl
  | cons found _ ih => exact (bind_of_ok (CaseRun.perform_eq_ok _ found t) _).trans (ih _)

/-- Cases that return can be chained, from any machine. -/
theorem exists_of_returns {cases : List TestCase} (returns : ∀ c ∈ cases, c.Returns) (m : Machine) :
    ∃ runs left, runs.map CaseRun.test = cases ∧ Chain m runs left := by
  induction cases generalizing m with
  | nil => exact ⟨[], m, rfl, .nil m⟩
  | cons c cases ih =>
      obtain ⟨first, later⟩ := List.forall_mem_cons.mp returns
      obtain ⟨verdict, left, returned⟩ := first (m.print c.announcement)
      obtain ⟨runs, last, tests, chain⟩ := ih later (left.print (c.verdictLine verdict))
      let r : CaseRun := ⟨c, m.print c.announcement, verdict, left, returned⟩
      exact ⟨r :: runs, last, congrArg (c :: ·) tests, .cons rfl chain⟩

/-- While the console is available, each case is recorded between its two lines. -/
theorem recorder (chain : Chain m runs left) {output : CaseRun → String}
    (prints : ∀ r ∈ runs, r.Prints (output r)) (available : m.recorder.available = true) :
    left.recorder =
      ⟨true, m.recorder.text ++ String.join (runs.map fun r => r.text (output r))⟩ := by
  induction chain with
  | nil m =>
      rw [List.map_nil, String.join_nil, String.append_empty, ← available]
  | @cons m left r runs found _ ih =>
      obtain ⟨first, later⟩ := List.forall_mem_cons.mp prints
      unfold CaseRun.Prints at first
      rw [found, Machine.print_of_available available] at first
      have told := Machine.print_of_available (m := r.left) (by rw [first])
        (r.test.verdictLine r.verdict)
      have recorded := ih later (by rw [told])
      rw [told, first] at recorded
      rw [recorded, List.map_cons, String.join_cons, CaseRun.text]
      simp only [String.append_assoc]

end Chain

/-- A suite whose cases return is told to begin, goes along a chain of their runs and is told to be
complete. -/
theorem TestSuite.perform_eq_ok {s : TestSuite} {m left : Machine} {runs : List CaseRun}
    (tests : runs.map CaseRun.test = s.cases) (chain : Chain (m.print s.header) runs left)
    (t : Tally) : s.perform t m =
      .ok ((runs.map CaseRun.verdict).foldl Tally.add t) (left.print s.footer) := by
  have ran := chain.performAll t
  rw [tests] at ran
  exact (bind_of_ok (print_run _ m) _).trans <| (bind_of_ok ran _).trans <|
    bind_of_ok (print_run _ left) _

/-! ### Commands -/

/-- A machine with nothing on record. -/
def Machine.cleared (m : Machine) : Machine :=
  { m with recorder := { m.recorder with text := "" } }

theorem Machine.print_cleared {m : Machine} (available : m.recorder.available = true)
    (text : String) : (m.cleared.print text).recorder = ⟨true, text⟩ := by
  rw [print_of_available (m := m.cleared) available]
  exact congrArg (Recorder.mk true) String.empty_append

/-- How far a test run has come: what it has counted, and the machine. -/
structure Progress where
  tally : Tally
  machine : Machine

namespace Progress

/-- One more command, on an empty record. -/
def next (p : Progress) (c : SuiteCommand) : Progress :=
  match c.run p.tally p.machine.cleared with
  | .ok t m => ⟨t, m⟩
  | .error _ m => ⟨p.tally, m⟩

def after (p : Progress) (commands : List SuiteCommand) : Progress := commands.foldl next p

/-- What the last command answered: whether all cases so far have passed, and what it printed. -/
def answer (p : Progress) : Bool × String := (p.tally.allPassed, p.machine.recorder.text)

variable {p : Progress}

theorem next_suite {s : TestSuite} {runs : List CaseRun} {left : Machine}
    (tests : runs.map CaseRun.test = s.cases)
    (chain : Chain (p.machine.cleared.print s.header) runs left) :
    p.next (.suite s) =
      ⟨(runs.map CaseRun.verdict).foldl Tally.add p.tally, left.print s.footer⟩ := by
  have ran : (SuiteCommand.suite s).run p.tally p.machine.cleared = _ :=
    TestSuite.perform_eq_ok tests chain p.tally
  unfold next
  rw [ran]

theorem next_summary : p.next .summary = ⟨p.tally, p.machine.cleared.print p.tally.summary⟩ := by
  have printed : p.tally.printSummary p.machine.cleared =
      .ok () (p.machine.cleared.print p.tally.summary) := by rw [Tally.printSummary_eq, print_run]
  have ran : SuiteCommand.summary.run p.tally p.machine.cleared = _ := bind_of_ok printed _
  unfold next
  rw [ran]
  rfl

theorem runAll_cons (t : Tally) (m : Machine) (c : SuiteCommand) (commands : List SuiteCommand) :
    SuiteCommand.runAll t m (c :: commands) = (next ⟨t, m⟩ c).answer ::
      SuiteCommand.runAll (next ⟨t, m⟩ c).tally (next ⟨t, m⟩ c).machine commands := by
  unfold next
  change (match c.run t m.cleared with
    | .ok t m => (t.allPassed, m.recorder.text) :: SuiteCommand.runAll t m commands
    | .error _ m => (t.allPassed, m.recorder.text) :: SuiteCommand.runAll t m commands) = _
  dsimp only
  cases c.run t m.cleared <;> rfl

/-- A test run answers every command from the progress made with it. -/
theorem runAll_append_singleton (t : Tally) (m : Machine) (commands : List SuiteCommand)
    (c : SuiteCommand) : SuiteCommand.runAll t m (commands ++ [c]) =
      SuiteCommand.runAll t m commands ++ [((after ⟨t, m⟩ commands).next c).answer] := by
  induction commands generalizing t m with
  | nil => exact runAll_cons t m c []
  | cons d commands ih => rw [List.cons_append, runAll_cons, runAll_cons, ih]; rfl

end Progress

/-- The cases that a command runs. -/
def SuiteCommand.cases : SuiteCommand → List TestCase
  | .suite s => s.cases
  | .summary | .console _ => []

/-- The runs of all cases of a list of commands, each of which returned. -/
inductive TestHistory : Progress → List SuiteCommand → List CaseRun → Prop where
  | nil (p : Progress) : TestHistory p [] []
  | suite {p : Progress} {s : TestSuite} {commands : List SuiteCommand} {runs later : List CaseRun}
      {left : Machine} : runs.map CaseRun.test = s.cases →
      Chain (p.machine.cleared.print s.header) runs left →
      TestHistory (p.next (.suite s)) commands later →
      TestHistory p (.suite s :: commands) (runs ++ later)
  | summary {p : Progress} {commands : List SuiteCommand} {later : List CaseRun} :
      TestHistory (p.next .summary) commands later → TestHistory p (.summary :: commands) later
  | console {p : Progress} {available : Bool} {commands : List SuiteCommand}
      {later : List CaseRun} : TestHistory (p.next (.console available)) commands later →
      TestHistory p (.console available :: commands) later

namespace TestHistory

variable {p : Progress} {commands : List SuiteCommand} {runs : List CaseRun}

/-- A history is one of all the cases of the suites, in order. -/
theorem tests_eq (history : TestHistory p commands runs) :
    runs.map CaseRun.test = commands.flatMap SuiteCommand.cases := by
  induction history with
  | nil p => rfl
  | suite tests _ _ ih => rw [List.map_append, tests, ih]; rfl
  | summary _ ih => exact ih
  | console _ ih => exact ih

/-- **Every verdict is counted once**, and nothing else is. -/
theorem tally_eq (history : TestHistory p commands runs) :
    (p.after commands).tally = (runs.map CaseRun.verdict).foldl Tally.add p.tally := by
  induction history with
  | nil p => rfl
  | @suite p s _ runs _ _ tests chain _ ih =>
      have counted : (p.next (.suite s)).tally =
          (runs.map CaseRun.verdict).foldl Tally.add p.tally :=
        congrArg Progress.tally (Progress.next_suite tests chain)
      rwa [List.map_append, List.foldl_append, ← counted]
  | @summary p _ _ _ ih =>
      have counted : (p.next .summary).tally = p.tally := by rw [Progress.next_summary]
      rwa [← counted]
  | console _ ih => exact ih

theorem append {later : List SuiteCommand} {rest : List CaseRun}
    (history : TestHistory p commands runs) (further : TestHistory (p.after commands) later rest) :
    TestHistory p (commands ++ later) (runs ++ rest) := by
  induction history with
  | nil p => exact further
  | suite tests chain _ ih =>
      rw [List.append_assoc]
      exact .suite tests chain (ih further)
  | summary _ ih => exact .summary (ih further)
  | console _ ih => exact .console (ih further)

/-- Commands whose cases return have a history, from any progress. -/
theorem exists_of_returns (returns : ∀ c ∈ commands.flatMap SuiteCommand.cases, c.Returns)
    (p : Progress) : ∃ runs, TestHistory p commands runs := by
  induction commands generalizing p with
  | nil => exact ⟨[], .nil p⟩
  | cons command commands ih =>
      rw [List.flatMap_cons, List.forall_mem_append] at returns
      obtain ⟨first, rest⟩ := returns
      obtain ⟨later, history⟩ := ih rest (p.next command)
      cases command with
      | suite s =>
          obtain ⟨runs, left, tests, chain⟩ :=
            Chain.exists_of_returns first (p.machine.cleared.print s.header)
          exact ⟨runs ++ later, .suite tests chain history⟩
      | summary => exact ⟨later, .summary history⟩
      | console available => exact ⟨later, .console history⟩

/-- The history of one suite is a chain. -/
theorem of_suite {s : TestSuite} (history : TestHistory p [.suite s] runs) :
    ∃ left, runs.map CaseRun.test = s.cases ∧
      Chain (p.machine.cleared.print s.header) runs left := by
  cases history with
  | suite tests chain later =>
      cases later
      rw [List.append_nil]
      exact ⟨_, tests, chain⟩

/-- After a history from the start the tally counts its verdicts. -/
theorem counts {m : Machine} (history : TestHistory ⟨.zero, m⟩ commands runs) :
    (Progress.after ⟨.zero, m⟩ commands).tally = .ofVerdicts (runs.map CaseRun.verdict) :=
  history.tally_eq

end TestHistory

/-- **A test run counts every verdict and reports every case.** Each command is answered from the
progress made with it. Commands whose cases return have a history, and after any history of
commands, suites, summaries and switches of the console, the cases that ran are those of the suites,
and the tally counts their verdicts: how many there are, and how many of each kind. All have passed
just if there are verdicts and no failure among them, so one failure is never made up for. Whether
all have passed and what a summary says depends on the verdicts alone and not on their order, on how
the cases make up suites, or on the console. On an available console a suite records its header,
then for each case in order the line that announces it, what it prints itself and the line of its
verdict, then its footer; a summary records the four counts, the failed and the skipped ones marked
as an error and a warning just if there are any. -/
theorem suites_tally_and_report :
    (∀ t m commands c, SuiteCommand.runAll t m (commands ++ [c]) =
      SuiteCommand.runAll t m commands ++ [((Progress.after ⟨t, m⟩ commands).next c).answer]) ∧
    (∀ p commands, (∀ c ∈ commands.flatMap SuiteCommand.cases, c.Returns) →
      ∃ runs, TestHistory p commands runs) ∧
    (∀ m commands runs, TestHistory ⟨.zero, m⟩ commands runs →
      runs.map CaseRun.test = commands.flatMap SuiteCommand.cases ∧
      (Progress.after ⟨.zero, m⟩ commands).tally.Counts (runs.map CaseRun.verdict) ∧
      (.fail ∈ runs.map CaseRun.verdict → ∀ later rest,
        TestHistory (Progress.after ⟨.zero, m⟩ commands) later rest →
          (Progress.after ⟨.zero, m⟩ (commands ++ later)).tally.allPassed = false)) ∧
    (∀ m₁ m₂ commands₁ commands₂ runs₁ runs₂, TestHistory ⟨.zero, m₁⟩ commands₁ runs₁ →
      TestHistory ⟨.zero, m₂⟩ commands₂ runs₂ →
      (runs₁.map CaseRun.verdict).Perm (runs₂.map CaseRun.verdict) →
        let t₁ := (Progress.after ⟨.zero, m₁⟩ commands₁).tally
        let t₂ := (Progress.after ⟨.zero, m₂⟩ commands₂).tally
        t₁.allPassed = t₂.allPassed ∧ t₁.summary = t₂.summary) ∧
    (∀ (p : Progress) s runs (output : CaseRun → String), p.machine.recorder.available = true →
      TestHistory p [.suite s] runs → (∀ r ∈ runs, r.Prints (output r)) →
        runs.map CaseRun.test = s.cases ∧ (p.next (.suite s)).machine.recorder =
          ⟨true, s.header ++ String.join (runs.map fun r => r.text (output r)) ++ s.footer⟩) ∧
    ∀ p : Progress, p.machine.recorder.available = true →
      (p.next .summary).machine.recorder = ⟨true, p.tally.summary⟩ := by
  refine ⟨Progress.runAll_append_singleton, ?returned, ?counts, ?alike, ?suite, ?summary⟩
  case returned =>
    intro p commands returns
    exact TestHistory.exists_of_returns returns p
  case counts =>
    intro m commands runs history
    refine ⟨history.tests_eq, history.counts ▸ Tally.counts_ofVerdicts _, ?_⟩
    intro failed later rest further
    have whole := Tally.counts_ofVerdicts ((runs ++ rest).map CaseRun.verdict)
    rw [← (history.append further).counts] at whole
    rw [Bool.eq_false_iff, Ne, whole.allPassed_iff, List.map_append]
    exact fun passed => passed.2 (List.mem_append_left _ failed)
  case alike =>
    intro m₁ m₂ commands₁ commands₂ runs₁ runs₂ history₁ history₂ same t₁ t₂
    have tallies : t₁ = t₂ :=
      history₁.counts.trans <| (Tally.ofVerdicts_perm same).trans history₂.counts.symm
    exact ⟨congrArg Tally.allPassed tallies, congrArg Tally.summary tallies⟩
  case suite =>
    intro p s runs output available history prints
    refine ⟨history.tests_eq.trans (List.append_nil _), ?_⟩
    obtain ⟨left, tests, chain⟩ := history.of_suite
    have begun := Machine.print_cleared available s.header
    have recorded := chain.recorder prints (by rw [begun])
    rw [begun] at recorded
    rw [Progress.next_suite tests chain, Machine.print_of_available (by rw [recorded]), recorded]
  case summary =>
    intro p available
    rw [Progress.next_summary, Machine.print_cleared available]

/-! Cases of given names, descriptions and verdicts. The same three verdicts come twice below: from
two suites on a console that is switched off between them, and from one suite after an empty one,
in another order and without a console. One suite of all three is then reported on an available
console, and a summary after it. -/

def TestCase.given (cases : List (String × String × Verdict)) : List TestCase :=
  cases.map fun (name, description, verdict) => .fixed name description verdict

theorem TestCase.given_returns (cases : List (String × String × Verdict)) :
    ∀ c ∈ given cases, c.Returns :=
  List.forall_mem_map.mpr fun (_, _, verdict) _ _ => ⟨verdict, _, rfl⟩

theorem CaseRun.verdicts_of_given (cases : List (String × String × Verdict))
    {runs : List CaseRun} (tests : runs.map CaseRun.test = TestCase.given cases) :
    runs.map CaseRun.verdict = cases.map fun (_, _, verdict) => verdict := by
  induction cases generalizing runs with
  | nil => rw [List.map_eq_nil_iff.mp tests]; rfl
  | cons c cases ih =>
      obtain ⟨name, description, verdict⟩ := c
      obtain ⟨r, later, rfl, first, rest⟩ := List.map_eq_cons_iff.mp tests
      have returned : (TestCase.fixed name description verdict).run r.found = _ :=
        first ▸ r.returned
      have same : verdict = r.verdict := (EStateM.Result.ok.inj returned).1
      rw [List.map_cons, List.map_cons, ih rest, same]

def bootCases : List (String × String × Verdict) :=
  [("stack", "Stack is aligned", .pass), ("bss", "BSS is clear", .fail)]

def timerCases : List (String × String × Verdict) := [("clint", "Timer ticks", .skip)]

def splitRun : List SuiteCommand :=
  [.suite ⟨"Boot", TestCase.given bootCases⟩, .console false,
    .suite ⟨"Timer", TestCase.given timerCases⟩]

def joinedRun : List SuiteCommand :=
  [.suite ⟨"Empty", []⟩, .summary, .suite ⟨"All", TestCase.given (timerCases ++ bootCases.reverse)⟩]

/-- A machine before a test run. -/
def untested (available : Bool) : Machine := .start (.initial 0#32) .empty available

theorem suites_tally_and_report_split :
    (∃ runs₁ runs₂, TestHistory ⟨.zero, untested true⟩ splitRun runs₁ ∧
      TestHistory ⟨.zero, untested false⟩ joinedRun runs₂ ∧
      (Progress.after ⟨.zero, untested true⟩ splitRun).tally.Counts [.pass, .fail, .skip] ∧
      (Progress.after ⟨.zero, untested true⟩ splitRun).tally.summary =
        (Progress.after ⟨.zero, untested false⟩ joinedRun).tally.summary) ∧
    let reported := Progress.next ⟨.zero, untested true⟩
      (.suite ⟨"Boot", TestCase.given (bootCases ++ timerCases)⟩)
    reported.answer = (false, "=== Boot Test Suite ===\n" ++
      "Running test: stack - Stack is aligned\n<pass>\x1b[32m[INFO]   [PASS] stack\x1b[0m\n" ++
      "Running test: bss - BSS is clear\n<fail>\x1b[31m[ERROR]   [FAIL] bss\x1b[0m\n" ++
      "Running test: clint - Timer ticks\n<skip>\x1b[33m[WARN]   [SKIP] clint\x1b[0m\n" ++
      "=== Boot Test Suite Complete ===\n") ∧
    (reported.next .summary).answer = (false, "=== Test Summary ===\nTotal tests: 3\n" ++
      "\x1b[32m[INFO] Passed: 1\x1b[0m\n" ++ "\x1b[31m[ERROR] Failed: 1\x1b[0m\n" ++
      "\x1b[33m[WARN] Skipped: 1\x1b[0m\n" ++ "==================\n") := by
  obtain ⟨-, returned, counted, alike, suite, summary⟩ := suites_tally_and_report
  refine ⟨?twice, ?reported, ?summed⟩
  case twice =>
    obtain ⟨runs₁, history₁⟩ := returned ⟨.zero, untested true⟩ splitRun
      (TestCase.given_returns (bootCases ++ timerCases))
    obtain ⟨runs₂, history₂⟩ := returned ⟨.zero, untested false⟩ joinedRun
      (TestCase.given_returns (timerCases ++ bootCases.reverse))
    obtain ⟨tests₁, counts₁, -⟩ := counted _ _ _ history₁
    obtain ⟨tests₂, -⟩ := counted _ _ _ history₂
    have verdicts₁ := CaseRun.verdicts_of_given (bootCases ++ timerCases) tests₁
    have verdicts₂ := CaseRun.verdicts_of_given (timerCases ++ bootCases.reverse) tests₂
    rw [verdicts₁] at counts₁
    refine ⟨runs₁, runs₂, history₁, history₂, counts₁, (alike _ _ _ _ _ _ history₁ history₂ ?_).2⟩
    rw [verdicts₁, verdicts₂]
    decide
  case reported =>
    let p : Progress := ⟨.zero, untested true⟩
    let boot : TestSuite := ⟨"Boot", TestCase.given (bootCases ++ timerCases)⟩
    let stack : TestCase := .fixed "stack" "Stack is aligned" .pass
    let bss : TestCase := .fixed "bss" "BSS is clear" .fail
    let clint : TestCase := .fixed "clint" "Timer ticks" .skip
    let first : CaseRun :=
      ⟨stack, (p.machine.cleared.print boot.header).print stack.announcement, .pass, _, rfl⟩
    let second : CaseRun :=
      ⟨bss, (first.left.print (stack.verdictLine .pass)).print bss.announcement, .fail, _, rfl⟩
    let third : CaseRun :=
      ⟨clint, (second.left.print (bss.verdictLine .fail)).print clint.announcement, .skip, _, rfl⟩
    have history : TestHistory p [.suite boot] ([first, second, third] ++ []) :=
      .suite rfl (.cons rfl (.cons rfl (.cons rfl (.nil _)))) (.nil _)
    let output (r : CaseRun) : String :=
      match r.verdict with
      | .pass => "<pass>"
      | .fail => "<fail>"
      | .skip => "<skip>"
    obtain ⟨-, recorded⟩ := suite p boot [first, second, third] output rfl history (by
      simp only [List.forall_mem_cons]
      exact ⟨rfl, rfl, rfl, List.forall_mem_nil _⟩)
    exact Prod.ext rfl ((congrArg Recorder.text recorded).trans rfl)
  case summed => exact Prod.ext rfl ((congrArg Recorder.text (summary _ rfl)).trans rfl)

end TrapDispatch
