import TrapDispatch.Scenario

/-!
The board: several harts that share one vector table and one console, and operations carried out on
them one after another. A step works on the machine of its own hart alone, which is put back into
the board afterwards. Main fact: `step_hart_ne`, no step reaches another hart.
-/

namespace TrapDispatch

/-- Everything that outlives a step. -/
structure Board (n : Nat) where
  harts : Vector Hart n
  table : VectorTable
  /-- Whether the registered console is available. -/
  available : Bool

/-- What a step shows. -/
structure StepReport where
  reply : Except Stop Reply
  csrs : Csrs
  fences : Nat
  /-- The text that was recorded during the step. -/
  text : String
  visits : List Visit

namespace Board

/-- Harts out of reset around an empty table. -/
def initial {n : Nat} (hartIds : Vector Word n) (available : Bool) : Board n :=
  ⟨hartIds.map Hart.initial, .empty, available⟩

/-- The machine that a step on a hart starts from. -/
def machine {n : Nat} (b : Board n) (i : Fin n) : Machine := .start b.harts[i] b.table b.available

/-- The board after a step on a hart that ended in a machine. -/
def update {n : Nat} (b : Board n) (i : Fin n) (m : Machine) : Board n :=
  ⟨b.harts.set i m.hart, m.table, m.recorder.available⟩

/-- One step on one hart. A step that stops keeps what it changed. -/
def step {n : Nat} (s : Scenario) (b : Board n) (i : Fin n) (op : Op) : Board n × StepReport :=
  let (reply, m) := (s.perform s.behaviour op).outcome (b.machine i)
  (b.update i m, ⟨reply, m.hart.csrs, m.hart.fences, m.recorder.text, m.visits⟩)

/-- Steps in order, each on a hart of its own choice. -/
def run {n : Nat} (s : Scenario) (b : Board n) : List (Fin n × Op) → Board n × List StepReport
  | [] => (b, [])
  | (i, op) :: steps =>
    let first := b.step s i op
    let rest := first.1.run s steps
    (rest.1, first.2 :: rest.2)

/-! ### What a step reaches -/

/-- The hart in a place. -/
def hart {n : Nat} (b : Board n) (i : Fin n) : Hart := b.harts[i]

@[simp] theorem machine_hart {n : Nat} (b : Board n) (i : Fin n) : (b.machine i).hart = b.hart i := rfl

@[simp] theorem machine_table {n : Nat} (b : Board n) (i : Fin n) :
    (b.machine i).table = b.table :=
  rfl

@[simp] theorem update_hart_self {n : Nat} (b : Board n) (i : Fin n) (m : Machine) :
    (b.update i m).hart i = m.hart :=
  Vector.getElem_set_self ..

@[simp] theorem update_hart_ne {n : Nat} (b : Board n) {i j : Fin n} (h : j ≠ i) (m : Machine) :
    (b.update i m).hart j = b.hart j :=
  Vector.getElem_set_ne i.isLt j.isLt fun same => h (Fin.ext same.symm)

/-- A machine on which the hart, the table and the console are as on the board changes nothing there. -/
theorem update_same {n : Nat} (b : Board n) (i : Fin n) {m : Machine} (hart : m.hart = b.hart i)
    (table : m.table = b.table) (available : m.recorder.available = b.available) :
    b.update i m = b := by
  unfold update
  rw [hart, table, available]
  congr 1
  exact Vector.set_getElem_self _

/-- A step leaves every other hart as it was. -/
theorem step_hart_ne {n : Nat} (s : Scenario) (b : Board n) {i j : Fin n} (h : j ≠ i) (op : Op) :
    (b.step s i op).1.hart j = b.hart j :=
  b.update_hart_ne h _

end Board

end TrapDispatch
