import TrapDispatch.Proofs.SharedTable

/-!
What can be told of a machine from the operations that were carried out on it.

A `Ledger` is a view of the machine together with what each operation makes of it. The views are
those that depend on the hart id and on the registered console alone, and not on what is printed
there (`Lasting`): code may change all the rest of its hart, the table, the captured text and its
notes, and only three operations reach such a view at all (`Op.isDirect`).

* `Ledger.Traces`: the view follows the operations, each of which finds what those before it left.
* `Scenario.perform_keeps`: an operation that is neither direct nor a dispatch leaves a lasting view
  alone.
* `History.Traced`: the ledger of an action, put together as its history is.
-/

namespace TrapDispatch

open Act

/-! ### Lasting views -/

/-- A view that depends on the hart id and on the registered console alone, and not on what is
printed there. -/
structure Lasting {γ : Type} (view : Machine → γ) : Prop where
  hart : ∀ (m : Machine) (h : Hart), h.csrs.hartId = m.hart.csrs.hartId →
    view { m with hart := h } = view m
  table : ∀ (m : Machine) (table : VectorTable), view { m with table } = view m
  capture : ∀ (m : Machine) (capture : Capture), view { m with capture } = view m
  visits : ∀ (m : Machine) (visits : List Visit), view { m with visits } = view m
  bench : ∀ (m : Machine) (bench : Bench), view { m with bench } = view m
  print : ∀ (m : Machine) (text : String), view (m.print text) = view m

/-- Software cannot write the hart id. -/
@[simp] theorem Csrs.hartId_write (r : Csrs) (csr : Csr) (value : Word) :
    (r.write csr value).hartId = r.hartId :=
  (r.get_write csr .hartId value).trans (if_neg fun written => written.2 written.1.symm)

@[simp] theorem Csrs.hartId_setBits (r : Csrs) (via : BitAccess) (csr : Csr) (mask : Word) :
    (r.setBits via csr mask).hartId = r.hartId := by
  rw [setBits_eq, hartId_write]

@[simp] theorem Csrs.hartId_clearBits (r : Csrs) (via : BitAccess) (csr : Csr) (mask : Word) :
    (r.clearBits via csr mask).hartId = r.hartId := by
  rw [clearBits_eq, hartId_write]

namespace Lasting

variable {γ : Type} {view : Machine → γ} (lasting : Lasting view)

include lasting

/-! ### Actions that leave a lasting view alone -/

theorem modifyHart {f : Hart → Hart} (same : ∀ h, (f h).csrs.hartId = h.csrs.hartId) :
    (Act.modifyHart f).Keeps view :=
  .modifyHart fun m => lasting.hart m _ (same m.hart)

theorem setBits (via : BitAccess) (csr : Csr) (mask : Word) : (Act.setBits via csr mask).Keeps view :=
  lasting.modifyHart fun h => h.csrs.hartId_setBits via csr mask

theorem clearBits (via : BitAccess) (csr : Csr) (mask : Word) :
    (Act.clearBits via csr mask).Keeps view :=
  lasting.modifyHart fun h => h.csrs.hartId_clearBits via csr mask

theorem store (address : Nat) (value : Word) : (Act.store address value).Keeps view :=
  .store fun memory m => lasting.hart m { m.hart with memory } rfl

theorem modifyBench (f : Bench → Bench) : (Act.modifyBench f).Keeps view :=
  .modify fun m => lasting.bench m (f m.bench)

theorem hit : Act.hit.Keeps view := lasting.modifyBench fun b => { b with hits := b.hits + 1 }

theorem printing (text : String) : (Act.print text).Keeps view :=
  .modify fun m => lasting.print m text

theorem printChars (cs : List Char) : (Act.printChars cs).Keeps view := by
  rw [printChars_eq]
  exact lasting.printing _

theorem install (code : Word) (slot : Option Handler) : (Act.install code slot).Keeps view := by
  intro m
  rw [outcome_of_ok (install_apply code slot m)]
  exact lasting.table m _

theorem contextPut (d : Dispatcher) (register value : Word) :
    (d.contextPut register value).Keeps view :=
  d.contextPut_keeps register value fun memory m => lasting.hart m { m.hart with memory } rfl

theorem enableIrq (d : Dispatcher) (c : Code) : (d.enableIrq c).Keeps view :=
  .ite (lasting.setBits _ _ _) (.pure _)

theorem disableIrq (d : Dispatcher) (c : Code) : (d.disableIrq c).Keeps view :=
  .ite (lasting.clearBits _ _ _) (.pure _)

theorem enableInterrupts (d : Dispatcher) : d.enableInterrupts.Keeps view :=
  .bind (.bind (.read _) fun _ => .pure _) fun _ => .bind (lasting.setBits _ _ _) fun _ => .pure _

theorem disableInterrupts (d : Dispatcher) : d.disableInterrupts.Keeps view :=
  .bind (.bind (.read _) fun _ => .pure _) fun _ => .bind (lasting.clearBits _ _ _) fun _ => .pure _

theorem restoreInterrupts (d : Dispatcher) (was : Bool) : (d.restoreInterrupts was).Keeps view :=
  .ite (lasting.setBits _ _ _) (.pure _)

theorem setup (d : Dispatcher) (entry : Nat) (default : Handler) :
    (d.setup entry default).Keeps view := by
  intro m
  rw [outcome_of_ok (d.setup_apply entry default m)]
  have hart := lasting.hart m (Dispatcher.prepared entry m.hart) rfl
  exact (lasting.table { m with hart := Dispatcher.prepared entry m.hart } _).trans hart

theorem advance (d : Dispatcher) (cause : Cause) : (d.advance cause).Keeps view := by
  intro m
  rw [outcome_of_ok (d.advance_apply cause m), Dispatcher.advanced]
  split
  · rfl
  · exact lasting.hart m _ rfl

/-- An available console takes text as if it was printed there, or else is not the registered one. -/
theorem puts {c : Console} {m : Machine} (available : c.isAvailable m = true) (text : String) :
    view (c.puts text m) = view m := by
  cases c with
  | registered =>
      have printed := lasting.print m text
      rwa [Machine.print_eq, if_pos (show m.recorder.available = true from available)] at printed
  | capture => exact lasting.capture m _
  | offline => rfl

theorem debugReport (d : Dispatcher) (console : Option Console) :
    (d.debugReport console).Keeps view := by
  intro m
  cases console with
  | none => rfl
  | some c =>
      have equation := d.debugReport_apply c m
      by_cases available : c.isAvailable m = true
      · have reported : view (d.reported c m) = view m := by
          rw [d.reported_eq c m]
          exact (lasting.hart (c.puts _ m) _ (by rw [Console.puts_hart]; rfl)).trans
            (lasting.puts available _)
        rw [if_pos available] at equation
        split at equation
        · rw [outcome_of_error equation, reported]
        · rw [outcome_of_ok equation, reported]
      · rw [if_neg available] at equation
        rw [outcome_of_ok equation]

theorem debugHandler (d : Dispatcher) : d.debugHandler.Keeps view :=
  .bind .get fun _ => lasting.debugReport d _

theorem probe (d : Dispatcher) (which : Probe) : (which.run d).Keeps view := by
  cases which with
  | countHit => exact lasting.hit
  | reportToCapture => exact .bind lasting.hit fun _ => lasting.debugReport d _
  | bumpA0 =>
      exact .bind (d.contextGet_keeps _) fun _ => .bind (d.contextGet_keeps _) fun _ =>
        .bind (d.contextGet_keeps _) fun _ => .bind (lasting.modifyBench _) fun _ =>
        .bind (d.contextGet_keeps _) fun _ => lasting.contextPut d _ _
  | onTimer => exact .bind (lasting.modifyBench _) fun _ => lasting.hit

theorem report (d : Dispatcher) (console : Option Console) (wanted : List String) :
    (Scenario.report d console wanted).Keeps view :=
  .ite
    (.bind (.modify fun m => lasting.capture m _) fun _ => .bind (lasting.debugReport d _) fun _ =>
      .bind .get fun _ => .pure _)
    (.bind (lasting.debugReport d _) fun _ => .pure _)

end Lasting

/-! ### Operations that leave a lasting view alone -/

/-- Whether an operation sets a register as the hardware does, or reaches the registered console
past its availability. -/
def Op.isDirect : Op → Bool
  | .poke .. | .switchConsole _ | .writer _ => true
  | _ => false

/-- Operations that are neither direct nor dispatch a trap leave a lasting view alone. -/
theorem Scenario.perform_keeps {γ : Type} {view : Machine → γ} (lasting : Lasting view)
    (s : Scenario) (behaviour : Behaviour) (op : Op) (direct : op.isDirect = false)
    (quiet : op.isQuiet = true) : (s.perform behaviour op).Keeps view := by
  cases op
  case poke | switchConsole | writer => cases direct
  case setup | start | install | tableInstall | tableFill | handleTrap | trap | selfTest =>
    cases quiet
  case config | entryAddress | read | halt | frame | backend => exact fun _ => rfl
  case write csr value =>
    exact .bind (lasting.modifyHart fun h => h.csrs.hartId_write csr value) fun _ => .pure _
  case setBits => exact .bind (lasting.setBits _ _ _) fun _ => .pure _
  case clearBits => exact .bind (lasting.clearBits _ _ _) fun _ => .pure _
  case fence | raise | pushFrame =>
    exact .bind (lasting.modifyHart fun _ => rfl) fun _ => .pure _
  case load => exact .bind (.load _) fun _ => .pure _
  case store => exact .bind (lasting.store _ _) fun _ => .pure _
  case print | printHex | log => exact .bind (lasting.printing _) fun _ => .pure _
  case printChars => exact .bind (lasting.printChars _) fun _ => .pure _
  case handler | tableGet => exact withCode_keeps (fun _ => fun _ => rfl) _
  case enableIrq => exact withCode_keeps (fun _ => .bind (lasting.enableIrq _ _) fun _ => .pure _) _
  case disableIrq => exact withCode_keeps (fun _ => .bind (lasting.disableIrq _ _) fun _ => .pure _) _
  case enableInterrupts => exact .bind (lasting.enableInterrupts _) fun _ => .pure _
  case disableInterrupts => exact .bind (lasting.disableInterrupts _) fun _ => .pure _
  case restoreInterrupts => exact .bind (lasting.restoreInterrupts _ _) fun _ => .pure _
  case trappedInstruction => exact .bind (Dispatcher.trappedInstruction_keeps _ _) fun _ => .pure _
  case contextGet => exact .bind (Dispatcher.contextGet_keeps _ _) fun _ => .pure _
  case contextPut => exact .bind (lasting.contextPut _ _ _) fun _ => .pure _
  case report => exact lasting.report _ _ _
  case debugHandler => exact .bind (lasting.debugHandler _) fun _ => .pure _

/-! ### Ledgers -/

/-- A lasting view, and what each operation that is carried out makes of it. -/
structure Ledger (γ : Type) where
  view : Machine → γ
  after : γ → Moment → γ
  lasting : Lasting view
  /-- Only direct operations make anything of it. -/
  others : ∀ (seen : γ) (now : Moment), now.op.isDirect = false → after seen now = seen
  poke : ∀ (m : Machine) (csr : Csr) (value : Word),
    view { m with hart := m.hart.poke csr value } = after (view m) ⟨m, .poke csr value⟩
  switch : ∀ (m : Machine) (available : Bool),
    view { m with recorder := { m.recorder with available } } =
      after (view m) ⟨m, .switchConsole available⟩
  writer : ∀ (m : Machine) (text : String),
    view (Console.registered.puts text m) = after (view m) ⟨m, .writer text⟩

namespace Ledger

variable {γ : Type} (l : Ledger γ)

/-- The view follows the operations: each finds what those before it left. -/
def Traces : γ → List Moment → γ → Prop
  | seen, [], final => seen = final
  | seen, now :: later, final => l.view now.machine = seen ∧ Traces (l.after seen now) later final

variable {l} {seen middle final : γ} {past later : List Moment}

theorem Traces.append (first : l.Traces seen past middle) (second : l.Traces middle later final) :
    l.Traces seen (past ++ later) final := by
  induction past generalizing seen with
  | nil =>
      rw [show seen = middle from first]
      exact second
  | cons now past ih => exact ⟨first.1, ih first.2⟩

/-- A view of which no operation makes anything is the same at every moment and at the end. -/
theorem Traces.constant (traces : l.Traces seen past final)
    (idle : ∀ now ∈ past, ∀ seen, l.after seen now = seen) :
    final = seen ∧ ∀ now ∈ past, l.view now.machine = seen := by
  induction past generalizing seen with
  | nil => exact ⟨Eq.symm traces, List.forall_mem_nil _⟩
  | cons now past ih =>
      obtain ⟨found, rest⟩ := traces
      rw [idle now List.mem_cons_self] at rest
      have later := ih rest fun next mem => idle next (List.mem_cons_of_mem now mem)
      exact ⟨later.1, List.forall_mem_cons.mpr ⟨found, later.2⟩⟩

end Ledger

/-! ### Histories on a ledger -/

namespace History

/-- The view follows the operations that an action carries out. -/
def Traced {γ : Type} (l : Ledger γ) {primary : Word} {α : Type} {x : Act α}
    (h : History primary x) : Prop :=
  ∀ m, l.Traces (l.view m) (h.moments m) (l.view (x.outcome m).2)

variable {γ : Type} {l : Ledger γ} {primary : Word} {α β : Type}

namespace Traced

theorem quiet {x : Act α} {table : x.Keeps Machine.table} (keeps : x.Keeps l.view) :
    (History.quiet table : History primary x).Traced l :=
  fun m => (keeps m).symm

theorem bind {x : Act α} {f : α → Act β} {hx : History primary x} {hf : ∀ a, History primary (f a)}
    (first : hx.Traced l) (rest : ∀ a, (hf a).Traced l) : (hx.bind hf).Traced l := by
  intro m
  have start := first m
  rw [outcome_bind]
  cases ran : x m with
  | ok a s =>
      rw [outcome_of_ok ran] at start
      rw [bind_moments hx hf ran]
      exact start.append (rest a s)
  | error e s =>
      rw [outcome_of_error ran] at start
      rw [bind_moments_of_error hx hf ran]
      exact start

theorem ite {c : Prop} [Decidable c] {x y : Act α} {hx : History primary x} {hy : History primary y}
    (left : hx.Traced l) (right : hy.Traced l) : (History.ite (c := c) hx hy).Traced l := by
  intro m
  change l.Traces _ (if c then hx.moments m else hy.moments m) _
  split
  · exact left m
  · exact right m

/-- An operation that is not direct is passed over. -/
theorem calling {x : Act α} {op : Op} (silent : ∀ m, Moment.write primary ⟨m, op⟩ = fun _ => none)
    {hx : History primary x} (direct : op.isDirect = false) (rest : hx.Traced l) :
    (History.calling op silent hx).Traced l := by
  intro m
  refine ⟨rfl, ?_⟩
  rw [l.others _ _ direct]
  exact rest m

theorem writing {x : Act α} {op : Op} {writes : ∀ m,
    (x.outcome m).2.table.get = Moment.after primary m.table.get ⟨m, op⟩}
    (direct : op.isDirect = false) (keeps : x.Keeps l.view) :
    (History.writing op writes).Traced l := by
  intro m
  refine ⟨rfl, ?_⟩
  rw [l.others _ _ direct]
  exact (keeps m).symm

/-- An operation that does no more than it says. -/
theorem alone {x : Act α} {op : Op} (silent : ∀ m, Moment.write primary ⟨m, op⟩ = fun _ => none)
    {table : x.Keeps Machine.table}
    (does : ∀ m, l.view (x.outcome m).2 = l.after (l.view m) ⟨m, op⟩) :
    (History.calling op silent (History.quiet table)).Traced l :=
  fun m => ⟨rfl, (does m).symm⟩

end Traced

end History

end TrapDispatch
