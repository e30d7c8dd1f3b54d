import TrapDispatch.Proofs.HartIsolation
import TrapDispatch.Proofs.TracedHistories

/-!
The registered console while it is unavailable, and while it is available.

* `perform_trap_silent`: a trap that finds the debug handler does what it does at an empty slot, for
  every cause. The debug handler looks at nothing but the availability of its console first.
* `Ledger.silence`: what is recorded while the console is unavailable follows from the operations, of
  which only the direct writes add to it.
* `step_silent`, `run_silent`: steps and runs that never switch the console on, handlers included.
* `Op.rendering`: the text of an operation that prints, letter by letter.
* `performAll_prints`, `run_prints`: on an available console operations that print record their
  renderings one after another.
* `unavailable_console_is_silent`: all of it.
-/

namespace TrapDispatch

open Act

/-! ### A debug slot without a console -/

namespace Dispatcher

variable {m : Machine} {slot : Option Handler}

/-- While its console is unavailable, the debug handler is passed over as an empty slot is. -/
theorem call_silent (native : Dispatcher) (scripts : Nat → Act Unit)
    (default : slot = none ∨ slot = some .debug) (silent : m.recorder.available = false) :
    call (Handler.behaviour native scripts) slot m = .ok () m := by
  rcases default with rfl | rfl
  · rfl
  · change native.debugHandler m = _
    rw [debugHandler_apply, if_neg (by rw [silent]; exact Bool.false_ne_true)]

/-- The move of the resume address depends on the hart alone and changes nothing else. -/
theorem advanced_of_hart (d : Dispatcher) (cause : Cause) {m m' : Machine} (same : m'.hart = m.hart) :
    d.advanced cause m' = { m' with hart := (d.advanced cause m).hart } := by
  unfold advanced
  rw [same]
  split
  · rw [← same]
  · rfl

/-- A dispatch to an empty slot or to the debug handler moves the resume address and does nothing
else. -/
theorem handleTrap_silent (d native : Dispatcher) (scripts : Nat → Act Unit)
    (default : slot = none ∨ slot = some .debug) (silent : m.recorder.available = false) :
    let table := m.table.install (Cause.code ⟨m.hart.csrs.cause⟩) slot
    d.handleTrap (Handler.behaviour native scripts) { m with table } =
      .ok () { m with table, hart := (d.advanced ⟨m.hart.csrs.cause⟩ m).hart } := by
  intro table
  have selected : table.get (Cause.code ⟨m.hart.csrs.cause⟩) = slot := by
    rw [VectorTable.get_install, if_pos rfl]
  have called : call (Handler.behaviour native scripts) slot { m with table } =
      .ok () { m with table } := call_silent native scripts default silent
  have moved : d.advanced ⟨m.hart.csrs.cause⟩ { m with table } =
      { m with table, hart := (d.advanced ⟨m.hart.csrs.cause⟩ m).hart } := d.advanced_of_hart _ rfl
  rw [handleTrap_apply]
  simp only [selected, called]
  rw [advance_apply, moved]

end Dispatcher

/-- A trap at an empty slot and at the debug handler ends in the same way, whatever its cause. -/
theorem Scenario.perform_trap_silent (s : Scenario) {op : Op} {m : Machine} {c : Word}
    (trap : op.trapCause m.hart = some c) (silent : m.recorder.available = false) :
    ∃ reply h, ∀ slot, slot = none ∨ slot = some .debug →
      let table := m.table.install (Cause.code ⟨c⟩) slot
      s.perform s.behaviour op { m with table } = .ok reply { m with table, hart := h } := by
  cases op
  case handleTrap via =>
    cases trap
    refine ⟨.nothing, ((s.dispatcher via).advanced ⟨m.hart.csrs.cause⟩ m).hart, ?_⟩
    intro slot default table
    exact bind_of_ok ((s.dispatcher via).handleTrap_silent s.native _ default silent) _
  case trap event x =>
    cases trap
    let entered : Machine := { m with hart := Dispatcher.enter event x.hardwireZero m.hart }
    refine ⟨.words (entered.hart.memory.frame (Dispatcher.frameBase x)).hardwireZero.toList,
      (s.native.advanced ⟨event.cause⟩ entered).hart, ?_⟩
    intro slot default table
    have selected : table.get (Cause.code ⟨event.cause⟩) = slot := by
      rw [VectorTable.get_install, if_pos rfl]
    have called : Dispatcher.call s.behaviour (table.get (Cause.code ⟨event.cause⟩))
        { entered with table } = .ok () { entered with table } := by
      rw [selected]
      exact Dispatcher.call_silent s.native _ default silent
    have taken := s.native.takeTrap_returns (x := x) (m := { m with table }) s.behaviour called
    have moved : s.native.advanced ⟨event.cause⟩ { entered with table } =
        { m with table, hart := (s.native.advanced ⟨event.cause⟩ entered).hart } :=
      s.native.advanced_of_hart _ rfl
    rw [moved] at taken
    exact bind_of_ok taken _
  all_goals cases trap

/-! ### The record of an unavailable console -/

/-- What an operation itself adds to the record of a console that is unavailable. -/
def Moment.written (now : Moment) : String :=
  match now.op with
  | .writer text => text
  | _ => ""

namespace Ledger

/-- What is recorded, as long as the console is unavailable. -/
def silence : Ledger (Option String) where
  view m := if m.recorder.available then none else some m.recorder.text
  after recorded now :=
    match now.op with
    | .writer text => recorded.map (· ++ text)
    | .switchConsole true => none
    | .switchConsole false => some now.machine.recorder.text
    | _ => recorded
  lasting := {
    hart := fun _ _ _ => rfl
    table := fun _ _ => rfl
    capture := fun _ _ => rfl
    visits := fun _ _ => rfl
    bench := fun _ _ => rfl
    print := by
      intro m text
      rw [Machine.print_eq]
      by_cases available : m.recorder.available = true
      · simp only [if_pos available]
        exact if_pos available
      · rw [if_neg available] }
  others recorded now direct := by
    obtain ⟨m, op⟩ := now
    cases op
    case poke | switchConsole | writer => cases direct
    all_goals rfl
  poke _ _ _ := rfl
  switch m available := by
    cases available <;> rfl
  writer m text := by
    change (if m.recorder.available then none else some (m.recorder.text ++ text)) =
      Option.map (· ++ text) (if m.recorder.available then none else some m.recorder.text)
    split <;> rfl

/-- The record of a machine whose console is unavailable. -/
theorem silence_view_eq_some {m : Machine} {text : String} :
    silence.view m = some text ↔ m.recorder.available = false ∧ m.recorder.text = text := by
  change (if m.recorder.available then none else some m.recorder.text) = some text ↔ _
  cases m.recorder.available <;> simp

variable {text : String} {past : List Moment} {final : Option String}

/-- Operations that do not switch the console on add what they write to it directly. -/
theorem silence_traces (traces : silence.Traces (some text) past final)
    (off : ∀ now ∈ past, now.op ≠ .switchConsole true) :
    final = some (text ++ String.join (past.map Moment.written)) := by
  induction past generalizing text with
  | nil =>
      rw [List.map_nil, String.join_nil, String.append_empty]
      exact Eq.symm traces
  | cons now past ih =>
      obtain ⟨found, rest⟩ := traces
      obtain ⟨-, recorded⟩ := silence_view_eq_some.mp found
      have after : silence.after (some text) now = some (text ++ now.written) := by
        obtain ⟨m, op⟩ := now
        cases op
        case switchConsole available =>
          cases available with
          | true => exact absurd rfl (off _ List.mem_cons_self)
          | false => exact congrArg some (recorded.trans String.append_empty.symm)
        case writer => rfl
        all_goals exact congrArg some String.append_empty.symm
      rw [after] at rest
      have later := ih rest fun next mem => off next (List.mem_cons_of_mem now mem)
      rw [later, List.map_cons, String.join_cons, String.append_assoc]

end Ledger

namespace Board

variable {n : Nat} {b : Board n}

/-- A step that never switches an unavailable console on records what is written to it directly. -/
theorem step_silent (s : Scenario) {i : Fin n} {op : Op} (silent : b.available = false)
    (off : ∀ now ∈ (History.session s op).moments (b.machine i), now.op ≠ .switchConsole true) :
    (b.step s i op).1.available = false ∧ (b.step s i op).2.text =
      String.join (((History.session s op).moments (b.machine i)).map Moment.written) := by
  have traces := History.session_traced (l := Ledger.silence) s op (b.machine i)
  have start : Ledger.silence.view (b.machine i) = some "" :=
    Ledger.silence_view_eq_some.mpr ⟨silent, rfl⟩
  rw [start] at traces
  have final := Ledger.silence_traces traces off
  rw [String.empty_append] at final
  exact Ledger.silence_view_eq_some.mp final

/-- So does a run, all its steps taken together. -/
theorem run_silent (s : Scenario) (steps : List (Fin n × Op)) (silent : b.available = false)
    (off : ∀ now ∈ b.moments s steps, now.op ≠ .switchConsole true) :
    (b.run s steps).1.available = false ∧ String.join ((b.run s steps).2.map StepReport.text) =
      String.join ((b.moments s steps).map Moment.written) := by
  induction steps generalizing b with
  | nil => exact ⟨silent, rfl⟩
  | cons step steps ih =>
      obtain ⟨i, op⟩ := step
      obtain ⟨first, later⟩ := List.forall_mem_append.mp off
      obtain ⟨still, text⟩ := step_silent s silent first
      obtain ⟨stays, texts⟩ := ih still later
      refine ⟨stays, ?_⟩
      change String.join ((b.step s i op).2.text :: _) =
        String.join (((History.session s op).moments (b.machine i) ++ _).map _)
      rw [String.join_cons, texts, text, List.map_append, String.join_append]

end Board

/-! ### The record of an available console -/

/-- The text of an operation that prints. Errors are red, warnings yellow and notes green. -/
def Op.rendering : Op → Option String
  | .print text => some text
  | .printChars text => some text
  | .printHex value => some ("0x" ++ Hex.upperDigits value)
  | .log .plain message => some message
  | .log .line message => some (message ++ "\n")
  | .log (.debug place) message => some ("[" ++ place ++ "] " ++ message ++ "\n")
  | .log .error message => some ("\x1b[31m[ERROR] " ++ message ++ "\x1b[0m\n")
  | .log .warn message => some ("\x1b[33m[WARN] " ++ message ++ "\x1b[0m\n")
  | .log .info message => some ("\x1b[32m[INFO] " ++ message ++ "\x1b[0m\n")
  | _ => none

namespace Act

/-- The pieces of a message in each style. -/
theorem log_pieces (message place : String) :
    log .plain message = print message ∧
    log .line message = [message, "\n"].forM print ∧
    log (.debug place) message = ["[", place, "] ", message, "\n"].forM print ∧
    log .error message = ["\x1b[31m[ERROR] ", message, "\x1b[0m\n"].forM print ∧
    log .warn message = ["\x1b[33m[WARN] ", message, "\x1b[0m\n"].forM print ∧
    log .info message = ["\x1b[32m[INFO] ", message, "\x1b[0m\n"].forM print := by
  simp only [forM_print, String.join_cons, String.join_nil, String.append_empty,
    ← String.append_assoc]
  exact ⟨rfl, rfl, rfl, rfl, rfl, rfl⟩

/-- Printing a text character by character prints the text. -/
theorem printChars_toList (text : String) : printChars text.toList = print text := by
  rw [printChars_eq, String.ofList_toList]

end Act

namespace Scenario

variable (s : Scenario)

/-- An operation that prints does nothing else. -/
theorem perform_prints (behaviour : Behaviour) {op : Op} {text : String}
    (renders : op.rendering = some text) (m : Machine) :
    s.perform behaviour op m = .ok .nothing (m.print text) := by
  cases op
  case print =>
    cases renders
    rfl
  case printHex =>
    cases renders
    rw [← Hex.padded_upper]
    rfl
  case log style message =>
    cases style <;> cases renders <;> rfl
  case printChars =>
    cases renders
    exact bind_of_ok (congrFun (printChars_toList text) m) _
  all_goals cases renders

/-- A handler that prints records its texts one after another. -/
theorem performAll_prints (behaviour : Behaviour) (place : Nat) (ops : List Op) {m : Machine}
    (available : m.recorder.available = true) (prints : ∀ op ∈ ops, op.rendering.isSome = true) :
    ∃ visits, s.performAll behaviour place ops m = .ok () { m with
      recorder := ⟨true, m.recorder.text ++ String.join (ops.filterMap Op.rendering)⟩, visits } := by
  induction ops generalizing m with
  | nil =>
      refine ⟨m.visits, ?_⟩
      simp only [List.filterMap_nil, String.join_nil, String.append_empty, ← available]
      rfl
  | cons op ops ih =>
      obtain ⟨first, later⟩ := List.forall_mem_cons.mp prints
      obtain ⟨text, renders⟩ := Option.isSome_iff_exists.mp first
      have performed := s.perform_prints behaviour renders m
      rw [Machine.print_of_available available] at performed
      let noted := m.visits.modify place fun v => { v with replies := v.replies ++ [.nothing] }
      let next : Machine :=
        { m with recorder := ⟨true, m.recorder.text ++ text⟩, visits := noted }
      obtain ⟨visits, rest⟩ := ih (m := next) rfl later
      refine ⟨visits, (bind_of_ok performed _).trans (rest.trans ?_)⟩
      rw [List.filterMap_cons_some renders, String.join_cons, ← String.append_assoc]

end Scenario

namespace Board

variable {n : Nat}

/-- Steps that print on an available console record their texts and change nothing. -/
theorem run_prints (s : Scenario) (b : Board n) (steps : List (Fin n × Op))
    (available : b.available = true) (prints : ∀ step ∈ steps, step.2.rendering.isSome = true) :
    (b.run s steps).1 = b ∧
      (b.run s steps).2.map StepReport.text = steps.filterMap fun step => step.2.rendering := by
  induction steps with
  | nil => exact ⟨rfl, rfl⟩
  | cons step steps ih =>
      obtain ⟨i, op⟩ := step
      obtain ⟨first, later⟩ := List.forall_mem_cons.mp prints
      obtain ⟨text, renders⟩ := Option.isSome_iff_exists.mp first
      have performed := s.perform_prints s.behaviour renders (b.machine i)
      rw [Machine.print_of_available (m := b.machine i) available] at performed
      have printed := outcome_of_ok performed
      have same : (b.step s i op).1 = b := by
        unfold step
        rw [printed]
        exact b.update_same i rfl rfl available.symm
      have recorded : (b.step s i op).2.text = text := by
        unfold step
        rw [printed]
        exact String.empty_append
      obtain ⟨board, texts⟩ := ih later
      refine ⟨?_, ?_⟩
      · change ((b.step s i op).1.run s steps).1 = b
        rw [same, board]
      · change (b.step s i op).2.text :: ((b.step s i op).1.run s steps).2.map StepReport.text = _
        rw [same, recorded, texts]
        exact (List.filterMap_cons_some (f := fun step : Fin n × Op => step.2.rendering)
          renders).symm

/-- **A console that is unavailable is as good as none.** While the registered console is
unavailable, a dispatch to the debug handler does just what it does at an empty slot, for every
cause, also a fatal one: it returns, moves the resume address and changes nothing else. So does a
whole trap. In a run that never switches the console on, its handlers included, the console records
what is written to it directly, past its availability, and nothing else. While it is available,
operations that print record their texts one after another, each as a whole: as steps and as the
script of a handler. A message is printed in pieces: its marks, its text and the end of its line. It
does not matter in which pieces a text is printed, down to its single characters. -/
theorem unavailable_console_is_silent (s : Scenario) :
    (∀ (d native : Dispatcher) (scripts : Nat → Act Unit) (m : Machine),
      m.recorder.available = false → ∃ resume, ∀ slot, slot = none ∨ slot = some .debug →
        let table := m.table.install (Cause.code ⟨m.hart.csrs.cause⟩) slot
        d.handleTrap (Handler.behaviour native scripts) { m with table } =
          .ok () { m with
            table, hart := { m.hart with csrs := { m.hart.csrs with resumeAddress := resume } } }) ∧
    (∀ (op : Op) (m : Machine) (c : Word), op.trapCause m.hart = some c →
      m.recorder.available = false → ∃ reply hart, ∀ slot, slot = none ∨ slot = some .debug →
        let table := m.table.install (Cause.code ⟨c⟩) slot
        s.perform s.behaviour op { m with table } = .ok reply { m with table, hart }) ∧
    (∀ {n : Nat} (b : Board n) (steps : List (Fin n × Op)), b.available = false →
      (∀ now ∈ b.moments s steps, now.op ≠ .switchConsole true) →
        (b.run s steps).1.available = false ∧ String.join ((b.run s steps).2.map StepReport.text) =
          String.join ((b.moments s steps).map Moment.written)) ∧
    (∀ {n : Nat} (b : Board n) (steps : List (Fin n × Op)), b.available = true →
      (∀ step ∈ steps, step.2.rendering.isSome = true) → (b.run s steps).1 = b ∧
        (b.run s steps).2.map StepReport.text = steps.filterMap fun step => step.2.rendering) ∧
    (∀ (behaviour : Behaviour) (place : Nat) (ops : List Op) (m : Machine),
      m.recorder.available = true → (∀ op ∈ ops, op.rendering.isSome = true) →
        ∃ visits, s.performAll behaviour place ops m = .ok () { m with
          recorder := ⟨true, m.recorder.text ++ String.join (ops.filterMap Op.rendering)⟩
          visits }) ∧
    (∀ message place : String,
      Act.log .plain message = Act.print message ∧
      Act.log .line message = [message, "\n"].forM Act.print ∧
      Act.log (.debug place) message = ["[", place, "] ", message, "\n"].forM Act.print ∧
      Act.log .error message = ["\x1b[31m[ERROR] ", message, "\x1b[0m\n"].forM Act.print ∧
      Act.log .warn message = ["\x1b[33m[WARN] ", message, "\x1b[0m\n"].forM Act.print ∧
      Act.log .info message = ["\x1b[32m[INFO] ", message, "\x1b[0m\n"].forM Act.print) ∧
    (∀ pieces : List String, pieces.forM Act.print = Act.print (String.join pieces)) ∧
    ∀ text : String, Act.printChars text.toList = Act.print text := by
  refine ⟨?dispatch, ?trap, ?silent, ?prints, ?handler, Act.log_pieces, Act.forM_print,
    Act.printChars_toList⟩
  case dispatch =>
    intro d native scripts m silent
    refine ⟨(d.advanced ⟨m.hart.csrs.cause⟩ m).hart.csrs.resumeAddress, ?_⟩
    intro slot default table
    refine (d.handleTrap_silent native scripts default silent).trans ?_
    unfold Dispatcher.advanced
    split <;> rfl
  case trap =>
    intro op m c trap silent
    exact s.perform_trap_silent trap silent
  case silent =>
    intro n b steps silent off
    exact run_silent s steps silent off
  case prints =>
    intro n b steps available prints
    exact b.run_prints s steps available prints
  case handler =>
    intro behaviour place ops m available prints
    exact s.performAll_prints behaviour place ops available prints

/-! Two harts without a console: the first sets the table up and prints, the second meets a fetch
fault, and only what is written past the availability is recorded. With a console so is what is
printed, here a message in every style and a number among it. -/

def silentHarts : Board 2 := { twoHarts with available := false }

def silentSteps (i j : Fin 2) : List (Fin 2 × Op) :=
  [(i, .start), (i, .print "up"), (j, .trap fetchFault Frame.zero), (i, .writer "raw")]

def printingSteps (i j : Fin 2) : List (Fin 2 × Op) :=
  [(i, .print "up"), (j, .printChars "time"), (i, .log .plain "boot"), (j, .log .line "ready"),
    (i, .log (.debug "uart:7") "sent"), (j, .log .error "stray trap"), (i, .log .warn "late"),
    (j, .log .info "hart 1"), (i, .printHex 0xbeef#32)]

theorem unavailable_console_is_silent_fetch_fault :
    (∃ reply hart, ∀ slot, slot = none ∨ slot = some .debug →
      let table := VectorTable.empty.install .instructionAccessFault slot
      twoHartScenario.perform twoHartScenario.behaviour (.trap fetchFault Frame.zero)
        { silentHarts.machine 1 with table } = .ok reply { silentHarts.machine 1 with table, hart }) ∧
    String.join ((silentHarts.run twoHartScenario (silentSteps 0 1)).2.map StepReport.text) = "raw" ∧
    (twoHarts.run twoHartScenario (printingSteps 0 1)).2.map StepReport.text =
      ["up", "time", "boot", "ready\n", "[uart:7] sent\n",
        "\x1b[31m[ERROR] stray trap\x1b[0m\n", "\x1b[33m[WARN] late\x1b[0m\n",
        "\x1b[32m[INFO] hart 1\x1b[0m\n", "0x0000BEEF"] := by
  obtain ⟨-, trap, silent, prints, -⟩ := unavailable_console_is_silent twoHartScenario
  refine ⟨?_, ?_, ?_⟩
  · exact trap (.trap fetchFault Frame.zero) (silentHarts.machine 1) 1#32 rfl rfl
  · have ops : (silentHarts.moments twoHartScenario (silentSteps 0 1)).map Moment.op =
        [.start, .setup 0x80000000 .debug, .print "up", .trap fetchFault Frame.zero,
          .writer "raw"] := rfl
    refine (silent silentHarts (silentSteps 0 1) rfl ?_).2
    intro now mem on
    have among := List.mem_map_of_mem (f := Moment.op) mem
    rw [ops, on] at among
    simp at among
  · refine (prints twoHarts (printingSteps 0 1) rfl ?_).2
    decide

end Board

end TrapDispatch
