import TrapDispatch.Board
import TrapDispatch.Proofs.SelfTestHistory

/-!
The vector table as one store that all harts of a board share.

* `History.perform`, `History.runScript`: the history of any operation and of any scripted handler,
  however deep handlers trap into handlers.
* `perform_moments`, `dispatch_moments`, `runScript_moments`, `performAll_moments`: what the
  histories list. An operation comes first in its own; a dispatch adds the operations of the handler
  that it calls, and a scripted handler those of its script up to the one that stopped.
* `Board.replays`: the table of a board follows the operations of its run, step by step.
* `table_last_write_wins`: at every moment of every run a slot holds what was last written to it,
  and a trap calls just that.
-/

namespace TrapDispatch

open Act

namespace History

/-! ### Operations and scripted handlers -/

theorem write_of_isQuiet {primary : Word} {op : Op} (quiet : op.isQuiet = true) (m : Machine) :
    Moment.write primary ⟨m, op⟩ = fun _ => none := by
  cases op
  case setup | start | install | tableInstall | tableFill | handleTrap | trap | selfTest =>
    cases quiet
  all_goals rfl

section

variable (s : Scenario)

/-- The history of an operation, given those of the handlers. -/
def perform {behaviour : Behaviour} (hb : ∀ h, History s.config.primaryHart (behaviour h))
    (op : Op) : History s.config.primaryHart (s.perform behaviour op) :=
  match kind : op.isQuiet with
  | true => calling op (write_of_isQuiet kind) (quiet (s.perform_keeps_table behaviour op kind))
  | false =>
    match op, kind with
    | .setup entry handler, _ =>
      bind (setup (s.dispatcher .readModifyWrite) entry handler) fun _ => quiet (.pure _)
    | .start, _ => bind (start s) fun _ => quiet (.pure _)
    | .install code slot, _ => bind (install code slot) fun
      | .ok () => quiet (.pure _)
      | .error _ => quiet (.pure _)
    | .tableInstall code slot, _ => tableInstall s behaviour code slot
    | .tableFill handler, _ => tableFill s behaviour handler
    | .handleTrap via, _ => calling (.handleTrap via) (fun _ => rfl) <|
      bind (dispatch _ hb) fun _ => quiet (.pure _)
    | .trap event x, _ => bind (trap _ hb event x) fun _ => quiet (.pure _)
    | .selfTest, _ => calling .selfTest (fun _ => rfl) <|
      bind (selfTest hb) fun _ => quiet (.pure _)

/-- The history of the operations of a script. -/
def performAll {behaviour : Behaviour} (hb : ∀ h, History s.config.primaryHart (behaviour h))
    (place : Nat) : (ops : List Op) →
    History s.config.primaryHart (s.performAll behaviour place ops)
  | [] => quiet (.pure _)
  | op :: ops => bind (perform s hb op) fun _ =>
    bind (quiet (.modify fun _ => rfl)) fun _ => performAll hb place ops

/-- The history of each handler, given those of the scripted ones. -/
def handler {primary : Word} (d : Dispatcher) {scripts : Nat → Act Unit}
    (hs : ∀ number, History primary (scripts number)) :
    (h : Handler) → History primary (Handler.behaviour d scripts h)
  | .debug => quiet d.debugHandler_keeps_table
  | .script number => hs number
  | .probe which => quiet (which.run_keeps_table d)

/-- The history of a scripted handler, by recursion on the depth of nesting that is left. -/
def runScript : (depth number : Nat) → History s.config.primaryHart (s.runScript depth number)
  | 0, _ => quiet (.stop _)
  | depth + 1, number => bind (quiet (.bind .get fun _ => .bind (.modify fun _ => rfl) fun _ =>
      .pure _)) fun place =>
    performAll s (handler s.native (runScript depth)) place (s.scripts number)

/-- The history of an operation in a session. -/
def session (op : Op) : History s.config.primaryHart (s.perform s.behaviour op) :=
  perform s (handler s.native (runScript s (s.nesting.depth + 1))) op

end

/-! ### What the histories list -/

section

variable {s : Scenario} {behaviour : Behaviour}
  (hb : ∀ h, History s.config.primaryHart (behaviour h))

/-- An operation comes first in its own history. -/
theorem perform_moments (op : Op) (m : Machine) :
    ∃ nested, (perform s hb op).moments m = ⟨m, op⟩ :: nested := by
  cases op <;> exact ⟨_, rfl⟩

theorem session_moments (s : Scenario) (op : Op) (m : Machine) :
    ∃ nested, (session s op).moments m = ⟨m, op⟩ :: nested :=
  perform_moments _ op m

/-- A dispatch adds the history of the handler in the slot of the cause. -/
theorem dispatch_moments (d : Dispatcher) (m : Machine) :
    (dispatch d hb).moments m =
      match m.table.get (Cause.code ⟨m.hart.csrs.cause⟩) with
      | some h => (hb h).moments m
      | none => [] := by
  rw [show m.hart.csrs.cause = m.hart.read .cause from rfl]
  simp only [dispatch, bind, quiet, Act.read_apply, Act.slot_apply, List.nil_append]
  cases m.table.get (Cause.code ⟨m.hart.read .cause⟩) with
  | none => rfl
  | some h =>
      change (hb h).moments m ++ _ = (hb h).moments m
      cases behaviour h m with
      | ok _ _ => exact List.append_nil _
      | error _ _ => exact List.append_nil _

/-- The operations of a script go on after one of them only if that one returned. -/
theorem performAll_moments (place : Nat) (op : Op) (ops : List Op) (m : Machine) :
    (performAll s hb place (op :: ops)).moments m =
      (perform s hb op).moments m ++
        match s.perform behaviour op m with
        | .ok reply t =>
          (performAll s hb place ops).moments ((noteReply place reply).outcome t).2
        | .error _ _ => [] := by
  change _ ++ _ = _ ++ _
  cases s.perform behaviour op m with
  | ok reply t => rfl
  | error _ _ => rfl

/-- A scripted handler carries out its script, with handlers one level deeper. -/
theorem runScript_moments (depth number : Nat) (m : Machine) :
    (runScript s (depth + 1) number).moments m =
      (performAll s (handler s.native (runScript s depth)) m.visits.length
        (s.scripts number)).moments ((openVisit number).outcome m).2 := rfl

end

end History

/-! ### Runs of a board -/

namespace Board

variable {n : Nat} (s : Scenario)

/-- Every operation that a run carries out, also inside handlers, in order. -/
def moments (b : Board n) : List (Fin n × Op) → List Moment
  | [] => []
  | (i, op) :: steps =>
    (History.session s op).moments (b.machine i) ++ (b.step s i op).1.moments steps

/-- The table follows the operations: one step appends its own history. -/
theorem replays (b : Board n) (steps : List (Fin n × Op)) :
    Replays s.config.primaryHart b.table.get (b.moments s steps) (b.run s steps).1.table.get := by
  induction steps generalizing b with
  | nil => rfl
  | cons step steps ih =>
      obtain ⟨i, op⟩ := step
      exact ((History.session s op).replays (b.machine i)).append (ih (b.step s i op).1)

/-- The operations of the steps are among those carried out, in the same order. -/
theorem ops_sublist (b : Board n) (steps : List (Fin n × Op)) :
    (steps.map Prod.snd).Sublist ((b.moments s steps).map Moment.op) := by
  induction steps generalizing b with
  | nil => exact List.nil_sublist _
  | cons step steps ih =>
      obtain ⟨i, op⟩ := step
      obtain ⟨nested, first⟩ := History.session_moments s op (b.machine i)
      have rest := ih (b.step s i op).1
      unfold moments
      rw [first, List.map_append]
      exact (rest.trans (List.sublist_append_right _ _)).cons_cons op

end Board

/-- A table holds in every slot what was last written to it, and a trap that finds this table calls
just that handler, whoever wrote it. -/
structure Serves (primary : Word) (past : List Moment) (t : VectorTable) : Prop where
  slots : ∀ k, t.get k = lastWrite primary past k
  dispatch : ∀ (d : Dispatcher) (behaviour : Behaviour) (m : Machine) (k : Code), m.table = t →
    k.bits = m.hart.csrs.cause &&& 0x8000001f#32 →
      d.handleTrap behaviour m =
        match Dispatcher.call behaviour (lastWrite primary past k) m with
        | .ok () after => d.advance ⟨m.hart.csrs.cause⟩ after
        | .error stop after => .error stop after

theorem Serves.of_slots {primary : Word} {past : List Moment} {t : VectorTable}
    (slots : t.get = lastWrite primary past) : Serves primary past t where
  slots k := congrFun slots k
  dispatch d behaviour m k table selected := by
    have same : Cause.code ⟨m.hart.csrs.cause⟩ = k :=
      Code.bits_injective ((Cause.code_bits _).trans selected.symm)
    have handled := d.handleTrap_apply behaviour m
    rw [same, table, slots] at handled
    refine handled.trans ?_
    cases Dispatcher.call behaviour (lastWrite primary past k) m <;> rfl

namespace Board

/-- **The table is one shared store in which the last write wins.** Take any number of harts in any
state around an empty table, and any steps on them. Of the operations that are carried out, those
inside handlers and those cut short by a stop included, each finds in every slot what the most
recent write to that slot before it put there, and so does whoever looks at the end. A trap that
finds the table of one of these moments calls the handler last written to slot `c & 0x8000001f` of
its cause `c` and no other, whichever hart wrote it. -/
theorem table_last_write_wins {n : Nat} (s : Scenario) (harts : Vector Hart n) (available : Bool)
    (steps : List (Fin n × Op)) :
    let board : Board n := ⟨harts, .empty, available⟩
    let past := board.moments s steps
    (steps.map Prod.snd).Sublist (past.map Moment.op) ∧
      (∀ i : Fin past.length,
        Serves s.config.primaryHart (past.take i) past[i].machine.table) ∧
      Serves s.config.primaryHart past (board.run s steps).1.table := by
  intro board past
  have replay := board.replays s steps
  have empty : board.table.get = fun _ => none := funext VectorTable.get_empty
  rw [empty] at replay
  refine ⟨board.ops_sublist s steps, fun i => .of_slots ?_, .of_slots ?_⟩
  · rw [← foldl_after]
    exact replay.found_eq i i.isLt
  · rw [← foldl_after]
    exact replay.final_eq

end Board

end TrapDispatch
