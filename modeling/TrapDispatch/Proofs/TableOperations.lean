import TrapDispatch.Proofs.DiagnosticLine
import TrapDispatch.Proofs.TableHistory

/-!
The history of each operation that is carried out without help of a handler, and of a trap.

* `perform_keeps_table`: the operations that are neither writes nor dispatches keep the table. Among
  them are the reports, the enables, the registers and the memory, and all printing.
* `History.install`, `History.tableInstall`, `History.tableFill`, `History.setup`: the four writing
  operations, each of which writes what `Moment.write` says.
* `History.dispatch`, `History.trap`: a trap adds nothing to the history of its handler.
-/

namespace TrapDispatch

open Act

namespace Act

/-! ### Actions that keep the table -/

theorem print_keeps_table (s : String) : (print s).Keeps Machine.table :=
  .print fun _ => Console.puts_table ..

theorem printChars_keeps_table (cs : List Char) : (printChars cs).Keeps Machine.table := by
  rw [printChars_eq]
  exact print_keeps_table _

theorem store_keeps_table (address : Nat) (value : Word) :
    (store address value).Keeps Machine.table :=
  .store fun _ _ => rfl

end Act

namespace Dispatcher

variable (d : Dispatcher)

theorem advance_keeps_table (cause : Cause) : (d.advance cause).Keeps Machine.table := by
  intro m
  rw [outcome_of_ok (d.advance_apply cause m)]
  exact d.advanced_table cause m

theorem trappedInstruction_keeps {γ : Type} {view : Machine → γ} (resume : Word) :
    (d.trappedInstruction resume).Keeps view := by
  intro m
  rw [outcome_of_ok (d.trappedInstruction_apply resume m)]

theorem contextGet_keeps {γ : Type} {view : Machine → γ} (register : Word) :
    (d.contextGet register).Keeps view :=
  .bind (.bind (.read _) fun _ => .pure _) fun _ => .load _

theorem contextPut_keeps {γ : Type} {view : Machine → γ} (register value : Word)
    (respects : ∀ (memory : Memory) (m : Machine),
      view { m with hart := { m.hart with memory } } = view m) :
    (d.contextPut register value).Keeps view :=
  .bind (.bind (.read _) fun _ => .pure _) fun _ => .store respects

theorem debugReport_keeps_table (console : Option Console) :
    (d.debugReport console).Keeps Machine.table :=
  d.debugReport_keeps Console.puts_table (fun _ _ => rfl) console

theorem debugHandler_keeps_table : d.debugHandler.Keeps Machine.table :=
  .bind .get fun _ => d.debugReport_keeps_table _

end Dispatcher

theorem Probe.run_keeps_table (d : Dispatcher) (which : Probe) :
    (which.run d).Keeps Machine.table := by
  cases which with
  | countHit => exact fun _ => rfl
  | reportToCapture => exact .bind (fun _ => rfl) fun _ => d.debugReport_keeps_table _
  | bumpA0 =>
      exact .bind (d.contextGet_keeps _) fun _ => .bind (d.contextGet_keeps _) fun _ =>
        .bind (d.contextGet_keeps _) fun _ => .bind (fun _ => rfl) fun _ =>
        .bind (d.contextGet_keeps _) fun _ => d.contextPut_keeps _ _ fun _ _ => rfl
  | onTimer => exact fun _ => rfl

/-! ### Operations that keep the table -/

/-- Whether an operation is neither a write nor a dispatch. -/
def Op.isQuiet : Op → Bool
  | .setup .. | .start | .install .. | .tableInstall .. | .tableFill _ => false
  | .handleTrap _ | .trap .. | .selfTest => false
  | _ => true

namespace Scenario

theorem withCode_keeps {γ : Type} {view : Machine → γ} {act : Code → Act Reply}
    (h : ∀ c, (act c).Keeps view) (w : Word) : (withCode w act).Keeps view := by
  unfold withCode
  split
  · exact h _
  · exact .pure _

theorem report_keeps_table (d : Dispatcher) (console : Option Console) (wanted : List String) :
    (report d console wanted).Keeps Machine.table :=
  .ite
    (.bind (.modify fun _ => rfl) fun _ => .bind (d.debugReport_keeps_table _) fun _ =>
      .bind .get fun _ => .pure _)
    (.bind (d.debugReport_keeps_table _) fun _ => .pure _)

/-- Operations that are neither writes nor dispatches keep the table, also when they stop. -/
theorem perform_keeps_table (s : Scenario) (behaviour : Behaviour) (op : Op)
    (quiet : op.isQuiet = true) : (s.perform behaviour op).Keeps Machine.table := by
  cases op
  case setup | start | install | tableInstall | tableFill | handleTrap | trap | selfTest =>
    cases quiet
  case config | entryAddress | read | write | setBits | clearBits | fence | halt | poke | raise |
      pushFrame | frame | switchConsole | backend | writer | enableInterrupts |
      disableInterrupts =>
    exact fun _ => rfl
  case print | printHex | log => exact .bind (print_keeps_table _) fun _ => .pure _
  case printChars => exact .bind (printChars_keeps_table _) fun _ => .pure _
  case handler | tableGet => exact withCode_keeps (fun _ => fun _ => rfl) _
  case enableIrq | disableIrq =>
    exact withCode_keeps (fun _ => .bind (.ite (fun _ => rfl) (.pure _)) fun _ => .pure _) _
  case restoreInterrupts => exact .bind (.ite (fun _ => rfl) (.pure _)) fun _ => .pure _
  case trappedInstruction => exact .bind (Dispatcher.trappedInstruction_keeps _ _) fun _ => .pure _
  case contextGet => exact .bind (Dispatcher.contextGet_keeps _ _) fun _ => .pure _
  case contextPut => exact .bind (Dispatcher.contextPut_keeps _ _ _ fun _ _ => rfl) fun _ => .pure _
  case report => exact report_keeps_table _ _ _
  case debugHandler => exact .bind (Dispatcher.debugHandler_keeps_table _) fun _ => .pure _
  case load => exact .bind (.load _) fun _ => .pure _
  case store => exact .bind (store_keeps_table _ _) fun _ => .pure _

end Scenario

/-! ### Operations that write to the table -/

namespace Moment

variable (primary : Word) (m : Machine) (slots : Slots)

theorem after_install (code : Word) (slot : Option Handler) :
    after primary slots ⟨m, .install code slot⟩ =
      fun k => if code = k.bits then slot else slots k := by
  funext k
  change Option.getD (if code = k.bits then some slot else none) _ = _
  split <;> rfl

theorem after_tableInstall (code : Word) (slot : Option Handler) :
    after primary slots ⟨m, .tableInstall code slot⟩ =
      fun k => if code = k.bits then slot else slots k :=
  after_install primary m slots code slot

theorem after_setup (entry : Nat) (handler : Handler) :
    after primary slots ⟨m, .setup entry handler⟩ =
      if m.hart.csrs.hartId = primary then fun _ => some handler else slots := by
  funext k
  change Option.getD (if m.hart.csrs.hartId = primary then some (some handler) else none) _ = _
  split <;> rfl

end Moment

/-- The start of a session never stops: the hart is set up with the debug handler, and says so. -/
theorem Scenario.start_apply (s : Scenario) (m : Machine) :
    s.start m = .ok () (Machine.print
      { m with
        hart := Dispatcher.prepared s.entry m.hart
        table := if m.hart.csrs.hartId = s.config.primaryHart then m.table.fill .debug
          else m.table }
      (LogStyle.debug.render
        ("hart " ++ toString m.hart.csrs.hartId.toNat ++ " trap runtime ready"))) :=
  bind_of_ok (s.native.setup_apply s.entry .debug m) _

theorem Scenario.tableInstall_table (s : Scenario) (behaviour : Behaviour) (code : Word)
    (slot : Option Handler) (m : Machine) :
    ((s.perform behaviour (.tableInstall code slot)).outcome m).2.table =
      m.table.installWord code slot := by
  change ((withCode code _).outcome m).2.table = _
  unfold withCode VectorTable.installWord
  cases Code.ofBits code <;> rfl

namespace History

variable {primary : Word}

/-- An install by the dispatcher, also of a word that encodes no code. -/
def install (code : Word) (slot : Option Handler) : History primary (Act.install code slot) :=
  writing (.install code slot) fun m => by
    rw [outcome_of_ok (install_apply code slot m), Moment.after_install]
    exact funext (m.table.get_installWord code slot)

/-- An install into the table itself. -/
def tableInstall (s : Scenario) (behaviour : Behaviour) (code : Word) (slot : Option Handler) :
    History primary (s.perform behaviour (.tableInstall code slot)) :=
  writing (.tableInstall code slot) fun m => by
    rw [Scenario.tableInstall_table, Moment.after_tableInstall]
    exact funext (m.table.get_installWord code slot)

def tableFill (s : Scenario) (behaviour : Behaviour) (handler : Handler) :
    History primary (s.perform behaviour (.tableFill handler)) :=
  writing (.tableFill handler) fun m => funext (m.table.get_fill handler)

/-- A setup, which writes on the primary hart of the dispatcher's configuration. -/
def setup (d : Dispatcher) (entry : Nat) (handler : Handler) :
    History d.config.primaryHart (d.setup entry handler) :=
  writing (.setup entry handler) fun m => by
    rw [outcome_of_ok (d.setup_apply entry handler m), Moment.after_setup]
    split
    · exact funext (m.table.get_fill handler)
    · rfl

/-- The start of a session, which is a setup and a line of text. -/
def start (s : Scenario) : History s.config.primaryHart s.start :=
  calling .start (fun _ => rfl) <| bind (setup s.native s.entry .debug) fun _ =>
    quiet (.bind (.read _) fun _ => print_keeps_table _)

/-! ### Traps -/

/-- A dispatch has the history of the handler that it calls, and none if the slot is empty. -/
def dispatch (d : Dispatcher) {behaviour : Behaviour} (hb : ∀ h, History primary (behaviour h)) :
    History primary (d.handleTrap behaviour) :=
  bind (quiet (.read _)) fun cause => bind (quiet (.slot _)) fun
    | some h => bind (hb h) fun _ => quiet (d.advance_keeps_table ⟨cause⟩)
    | none => quiet (d.advance_keeps_table ⟨cause⟩)

/-- A whole trap, from the entry to the exit. -/
def trap (d : Dispatcher) {behaviour : Behaviour} (hb : ∀ h, History primary (behaviour h))
    (event : TrapEvent) (x : Frame) : History primary (d.takeTrap behaviour event x) :=
  calling (.trap event x) (fun _ => rfl) <| bind (quiet (.modifyHart fun _ => rfl)) fun _ =>
    bind (dispatch d hb) fun _ => quiet (.bind .get fun _ => .pure _)

end History

end TrapDispatch
