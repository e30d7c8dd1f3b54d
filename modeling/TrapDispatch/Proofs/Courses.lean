import TrapDispatch.Proofs.SharedTable

/-!
What the setup of a hart other than the primary one has no influence on.

Such a setup writes three registers and counts a fence. The `course` of a machine leaves those out,
and with them what was recorded, captured and noted. Code on two machines of one course keeps to one
course (`Act.Alike`): no branch is taken on what was left out. Only the self tests look at it, and
only a poke changes the hart id; without these an operation is `Op.isStraight`.

* `Machine.Alike`: two machines of one course, on a hart with a given id.
* `Act.Alike`: both actions return, with related values, or both stop for one reason.
* `Scenario.perform_alike`: the straight operations that neither write to the table nor dispatch.
-/

namespace TrapDispatch

open Act

/-! ### Courses -/

/-- A hart without what a setup writes. -/
def Hart.course (h : Hart) : Hart where
  csrs := { h.csrs with status := 0#32, trapVector := 0#32, interruptEnable := 0#32 }
  memory := h.memory
  fences := 0

/-- A machine without what a setup writes on its hart, and without what was recorded, captured and
noted. -/
def Machine.course (m : Machine) : Machine where
  hart := m.hart.course
  table := m.table
  recorder := ⟨m.recorder.available, ""⟩
  capture := .empty captureCapacity
  visits := []
  bench := m.bench

/-- Machines of one course, on harts with this id. -/
structure Machine.Alike (id : Word) (m m' : Machine) : Prop where
  course : m.course = m'.course
  hartId : m.hart.csrs.hartId = id

namespace Machine.Alike

variable {id : Word} {m m' m'' : Machine}

theorem refl (hartId : m.hart.csrs.hartId = id) : Alike id m m := ⟨rfl, hartId⟩

theorem hart (alike : Alike id m m') : m.hart.course = m'.hart.course :=
  congrArg (fun m => m.hart) alike.course

theorem table (alike : Alike id m m') : m.table = m'.table :=
  congrArg (fun m => m.table) alike.course

theorem memory (alike : Alike id m m') : m.hart.memory = m'.hart.memory :=
  congrArg (fun m => m.hart.memory) alike.course

theorem available (alike : Alike id m m') : m.recorder.available = m'.recorder.available :=
  congrArg (fun m => m.recorder.available) alike.course

theorem symm (alike : Alike id m m') : Alike id m' m where
  course := alike.course.symm
  hartId := (congrArg (fun m => m.hart.csrs.hartId) alike.course).symm.trans alike.hartId

theorem trans (first : Alike id m m') (second : Alike id m' m'') : Alike id m m'' where
  course := first.course.trans second.course
  hartId := first.hartId

/-- A change that can be read off the course of a machine leaves machines of one course. -/
theorem change {f : Machine → Machine} (respects : ∀ m, (f m).course = (f m.course).course)
    (keeps : ∀ m, (f m).hart.csrs.hartId = m.hart.csrs.hartId) (alike : Alike id m m') :
    Alike id (f m) (f m') where
  course := by rw [respects m, respects m', alike.course]
  hartId := (keeps m).trans alike.hartId

end Machine.Alike

namespace Act

/-! ### Alike actions -/

/-- Both runs returned, with related values, or both stopped for one reason; either way the machines
are alike. -/
def EndsAlike {α β : Type} (id : Word) (R : α → β → Prop) :
    EStateM.Result Stop Machine α → EStateM.Result Stop Machine β → Prop
  | .ok a m, .ok b m' => R a b ∧ m.Alike id m'
  | .error e m, .error e' m' => e = e' ∧ m.Alike id m'
  | _, _ => False

theorem EndsAlike.cases {α β : Type} {id : Word} {R : α → β → Prop}
    {left : EStateM.Result Stop Machine α} {right : EStateM.Result Stop Machine β}
    (ends : EndsAlike id R left right) :
    (∃ a t b t', left = .ok a t ∧ right = .ok b t' ∧ R a b ∧ t.Alike id t') ∨
      ∃ e t t', left = .error e t ∧ right = .error e t' ∧ t.Alike id t' := by
  cases left with
  | ok a t =>
      cases right with
      | ok b t' => exact .inl ⟨a, t, b, t', rfl, rfl, ends⟩
      | error e' t' => exact ends.elim
  | error e t =>
      cases right with
      | ok b t' => exact ends.elim
      | error e' t' =>
          obtain ⟨rfl, alike⟩ := ends
          exact .inr ⟨e, t, t', rfl, rfl, alike⟩

/-- Runs that end alike leave machines of one course, whether they return or stop. -/
theorem EndsAlike.outcome {α β : Type} {id : Word} {R : α → β → Prop} {x : Act α} {y : Act β}
    {m m' : Machine} (ends : EndsAlike id R (x m) (y m')) :
    (x.outcome m).2.Alike id (y.outcome m').2 := by
  rcases ends.cases with ⟨a, t, b, t', left, right, -, alike⟩ | ⟨e, t, t', left, right, alike⟩
  · rw [outcome_of_ok left, outcome_of_ok right]
    exact alike
  · rw [outcome_of_error left, outcome_of_error right]
    exact alike

/-- On machines of one course the actions keep to one course. -/
def Alike {α β : Type} (id : Word) (R : α → β → Prop) (x : Act α) (y : Act β) : Prop :=
  ∀ m m', m.Alike id m' → EndsAlike id R (x m) (y m')

/-- Values that need not have to do with each other. -/
def Any {α β : Type} (_ : α) (_ : β) : Prop := True

namespace Alike

variable {id : Word} {α β γ δ : Type} {R : α → β → Prop} {S : γ → δ → Prop}

theorem pure {a : α} {b : β} (related : R a b) :
    Alike id R (Pure.pure a : Act α) (Pure.pure b : Act β) :=
  fun _ _ alike => ⟨related, alike⟩

theorem stop (e : Stop) : Alike id R (Act.stop e : Act α) (Act.stop e : Act β) :=
  fun _ _ alike => ⟨rfl, alike⟩

theorem bind {x : Act α} {y : Act β} {f : α → Act γ} {g : β → Act δ} (first : Alike id R x y)
    (rest : ∀ a b, R a b → Alike id S (f a) (g b)) : Alike id S (x >>= f) (y >>= g) := by
  intro m m' alike
  rcases (first m m' alike).cases with ⟨a, t, b, t', left, right, related, next⟩ |
    ⟨e, t, t', left, right, stopped⟩
  · rw [bind_of_ok left, bind_of_ok right]
    exact rest a b related t t' next
  · rw [bind_of_error left, bind_of_error right]
    exact ⟨rfl, stopped⟩

/-- What is done with the value does not matter to the machine. -/
theorem bind_pure {x : Act α} {y : Act β} (first : Alike id R x y) (f : α → γ) (g : β → δ) :
    Alike id Any (x >>= fun a => Pure.pure (f a)) (y >>= fun b => Pure.pure (g b)) :=
  bind first fun _ _ _ => pure trivial

theorem ite {c : Prop} [Decidable c] {x x' : Act α} {y y' : Act β} (yes : Alike id R x y)
    (no : Alike id R x' y') : Alike id R (if c then x else x') (if c then y else y') := by
  split
  · exact yes
  · exact no

theorem get : Alike id (Machine.Alike id) (MonadState.get : Act Machine) MonadState.get :=
  fun _ _ alike => ⟨alike, alike⟩

/-- An action that does nothing but a change which can be read off the course. -/
theorem of_apply {x : Act α} {a : Machine → α} {f : Machine → Machine}
    (runs : ∀ m, x m = .ok (a m) (f m)) (respects : ∀ m, (f m).course = (f m.course).course)
    (keeps : ∀ m, (f m).hart.csrs.hartId = m.hart.csrs.hartId) : Alike id Any x x := by
  intro m m' alike
  rw [runs, runs]
  exact ⟨trivial, alike.change respects keeps⟩

theorem modify {f : Machine → Machine} (respects : ∀ m, (f m).course = (f m.course).course)
    (keeps : ∀ m, (f m).hart.csrs.hartId = m.hart.csrs.hartId) :
    Alike id Any (modify f : Act Unit) (modify f : Act Unit) :=
  of_apply (fun _ => rfl) respects keeps

theorem modifyHart {f : Hart → Hart} (respects : ∀ h, (f h).course = (f h.course).course)
    (keeps : ∀ h, (f h).csrs.hartId = h.csrs.hartId) :
    Alike id Any (Act.modifyHart f) (Act.modifyHart f) :=
  of_apply (fun _ => rfl)
    (fun m => congrArg (fun hart => { m.course with hart }) (respects m.hart))
    (fun m => keeps m.hart)

/-- A value that can be read off the course is the same on both machines. -/
theorem view (view : Machine → α) (shown : ∀ m, view m.course = view m) {x : Act α}
    (runs : ∀ m, x m = .ok (view m) m) : Alike id Eq x x := by
  intro m m' alike
  rw [runs, runs]
  refine ⟨?_, alike⟩
  rw [← shown m, alike.course, shown]

theorem slot (c : Code) : Alike id Eq (Act.slot c) (Act.slot c) :=
  view (fun m => m.table.get c) (fun _ => rfl) fun _ => rfl

/-- Every register may be read. -/
theorem read (csr : Csr) : Alike id Any (Act.read csr) (Act.read csr) :=
  of_apply (fun _ => rfl) (fun _ => rfl) fun _ => rfl

/-- Registers that a setup does not write have the same value. -/
theorem readShown {csr : Csr} (shown : ∀ h : Hart, h.course.read csr = h.read csr) :
    Alike id Eq (Act.read csr) (Act.read csr) :=
  view (fun m => m.hart.read csr) (fun m => shown m.hart) fun _ => rfl

theorem load (address : Nat) : Alike id Eq (Act.load address) (Act.load address) := by
  intro m m' alike
  rw [load_apply, load_apply, alike.memory]
  split
  · exact ⟨rfl, alike⟩
  · exact ⟨rfl, alike⟩

theorem store (address : Nat) (value : Word) :
    Alike id Any (Act.store address value) (Act.store address value) := by
  intro m m' alike
  rw [store_apply, store_apply]
  split
  · exact ⟨trivial, alike.change
      (f := fun m => { m with hart := { m.hart with memory := m.hart.memory.write address value } })
      (fun _ => rfl) fun _ => rfl⟩
  · exact ⟨rfl, alike⟩

theorem puts (c : Console) (text : String) : Alike id Any (Act.puts c text) (Act.puts c text) := by
  refine modify ?_ ?_
  · intro m
    cases c <;> rfl
  · intro m
    rw [Console.puts_hart]

/-- What is printed does not belong to the course. -/
theorem print (text : String) : Alike id Any (Act.print text) (Act.print text) := by
  refine modify ?_ ?_
  · intro m
    rw [Machine.print_eq, Machine.print_eq]
    change _ = (if m.recorder.available then _ else _ : Machine).course
    split <;> rfl
  · intro m
    rw [Machine.print_hart]

theorem printChars (cs : List Char) : Alike id Any (Act.printChars cs) (Act.printChars cs) := by
  rw [printChars_eq]
  exact print _

theorem write (csr : Csr) (value : Word) :
    Alike id Any (Act.write csr value) (Act.write csr value) := by
  refine modifyHart ?_ ?_
  · intro h
    cases csr <;> rfl
  · intro h
    cases csr <;> rfl

theorem setBits (via : BitAccess) (csr : Csr) (mask : Word) :
    Alike id Any (Act.setBits via csr mask) (Act.setBits via csr mask) := by
  refine modifyHart ?_ ?_
  · intro h
    cases via <;> cases csr <;> rfl
  · intro h
    cases via <;> cases csr <;> rfl

theorem clearBits (via : BitAccess) (csr : Csr) (mask : Word) :
    Alike id Any (Act.clearBits via csr mask) (Act.clearBits via csr mask) := by
  refine modifyHart ?_ ?_
  · intro h
    cases via <;> cases csr <;> rfl
  · intro h
    cases via <;> cases csr <;> rfl

/-- An install answers and does the same on every machine. -/
theorem install (code : Word) (slot : Option Handler) :
    Alike id Eq (Act.install code slot) (Act.install code slot) := by
  intro m m' alike
  rw [install_apply, install_apply]
  refine ⟨rfl, alike.change (f := fun m => { m with table := m.table.installWord code slot }) ?_ ?_⟩
  · exact fun _ => rfl
  · exact fun _ => rfl

end Alike

end Act

/-! ### The dispatcher -/

namespace Dispatcher

variable {id : Word} (d : Dispatcher)

/-- A setup is decided by the hart id. -/
theorem setup_alike (entry : Nat) (handler : Handler) :
    Act.Alike id Any (d.setup entry handler) (d.setup entry handler) :=
  .of_apply (d.setup_apply entry handler) (fun _ => rfl) fun _ => rfl

theorem trappedInstruction_alike (resume : Word) :
    Act.Alike id Eq (d.trappedInstruction resume) (d.trappedInstruction resume) :=
  .view (fun m => m.hart.instructionAt d.config.hasMtinst resume) (fun _ => rfl)
    (d.trappedInstruction_apply resume)

theorem advance_alike (cause : Cause) : Act.Alike id Any (d.advance cause) (d.advance cause) := by
  refine .of_apply (d.advance_apply cause) ?_ ?_
  · intro m
    have stride : d.stride m.course.hart = d.stride m.hart := rfl
    unfold advanced
    rw [stride]
    split <;> rfl
  · intro m
    unfold advanced
    split <;> rfl

theorem frameSlot_alike (register : Word) :
    Act.Alike id Eq (d.frameSlot register) (d.frameSlot register) := by
  refine .bind (.readShown fun _ => rfl) ?_
  rintro scratch _ rfl
  exact .pure rfl

theorem contextGet_alike (register : Word) :
    Act.Alike id Eq (d.contextGet register) (d.contextGet register) := by
  refine .bind (d.frameSlot_alike register) ?_
  rintro address _ rfl
  exact .load address

theorem contextPut_alike (register value : Word) :
    Act.Alike id Any (d.contextPut register value) (d.contextPut register value) := by
  refine .bind (d.frameSlot_alike register) ?_
  rintro address _ rfl
  exact .store address value

theorem interruptsEnabled_alike : Act.Alike id Any interruptsEnabled interruptsEnabled :=
  .bind_pure (.read _) _ _

/-- The answer is the old flag, which may differ. -/
theorem enableInterrupts_alike : Act.Alike id Any d.enableInterrupts d.enableInterrupts :=
  .bind interruptsEnabled_alike fun _ _ _ => .bind_pure (.setBits _ _ _) _ _

theorem disableInterrupts_alike : Act.Alike id Any d.disableInterrupts d.disableInterrupts :=
  .bind interruptsEnabled_alike fun _ _ _ => .bind_pure (.clearBits _ _ _) _ _

/-- Neither the line of a report nor its policy belongs to the course. -/
theorem printed_course (m : Machine) (c : Console) (text : String) (enables : Word) :
    (m.printed c text enables).course = m.course := by
  cases c <;> rfl

theorem reported_alike (c : Console) {m m' : Machine} (alike : m.Alike id m') :
    (d.reported c m).Alike id (d.reported c m') := by
  rw [reported_eq, reported_eq]
  refine ⟨?_, alike.hartId⟩
  rw [printed_course, printed_course, alike.course]

/-- Whether a report halts is decided by the cause and by its console. -/
theorem debugReport_alike (console : Option Console) :
    Act.Alike id Any (d.debugReport console) (d.debugReport console) := by
  intro m m' alike
  cases console with
  | none => exact ⟨trivial, alike⟩
  | some c =>
      have available : c.isAvailable m = c.isAvailable m' := by
        cases c with
        | registered => exact alike.available
        | capture | offline => rfl
      have cause : m.hart.csrs.cause = m'.hart.csrs.cause :=
        congrArg (fun h => h.csrs.cause) alike.hart
      rw [debugReport_apply, debugReport_apply, available, cause]
      split
      · split
        · exact ⟨rfl, d.reported_alike c alike⟩
        · exact ⟨trivial, d.reported_alike c alike⟩
      · exact ⟨trivial, alike⟩

theorem debugHandler_alike : Act.Alike id Any d.debugHandler d.debugHandler := by
  rw [debugHandler_eq]
  exact d.debugReport_alike _

end Dispatcher

theorem Probe.run_alike {id : Word} (d : Dispatcher) (which : Probe) :
    Act.Alike id Any (which.run d) (which.run d) := by
  cases which with
  | countHit => exact .modify (fun _ => rfl) fun _ => rfl
  | reportToCapture =>
      exact .bind (.modify (fun _ => rfl) fun _ => rfl) fun _ _ _ => d.debugReport_alike _
  | bumpA0 =>
      refine .bind (d.contextGet_alike _) ?_
      rintro zero _ rfl
      refine .bind (d.contextGet_alike _) ?_
      rintro stack _ rfl
      refine .bind (d.contextGet_alike _) ?_
      rintro t2 _ rfl
      refine .bind (.modify (fun _ => rfl) fun _ => rfl) ?_
      intro _ _ _
      refine .bind (d.contextGet_alike _) ?_
      rintro a0 _ rfl
      exact d.contextPut_alike _ _
  | onTimer =>
      exact .bind (.modify (fun _ => rfl) fun _ => rfl) fun _ _ _ =>
        .modify (fun _ => rfl) fun _ => rfl

/-! ### Operations -/

/-- Whether an operation neither changes the hart id nor takes a branch on the contents of the
registers that a setup writes. -/
def Op.isStraight : Op → Bool
  | .selfTest => false
  | .poke csr _ => csr ≠ .hartId
  | _ => true

namespace Scenario

variable {id : Word}

theorem withCode_alike {act act' : Code → Act Reply}
    (h : ∀ c, Act.Alike id Any (act c) (act' c)) (w : Word) :
    Act.Alike id Any (withCode w act) (withCode w act') := by
  unfold withCode
  split
  · exact h _
  · exact .pure trivial

theorem report_alike (d : Dispatcher) (console : Option Console) (wanted : List String) :
    Act.Alike id Any (report d console wanted) (report d console wanted) := by
  refine .ite ?_ ?_
  · refine .bind (.modify (fun _ => rfl) fun _ => rfl) fun _ _ _ => ?_
    exact .bind (d.debugReport_alike console) fun _ _ _ => .bind_pure .get _ _
  · exact .bind_pure (d.debugReport_alike console) _ _

/-- Straight operations that neither write to the table nor dispatch keep to one course. What
handlers do has no say in them. -/
theorem perform_alike (s : Scenario) (behaviour behaviour' : Behaviour) (op : Op)
    (straight : op.isStraight = true) (quiet : op.isQuiet = true) :
    Act.Alike id Any (s.perform behaviour op) (s.perform behaviour' op) := by
  cases op
  case setup | start | install | tableInstall | tableFill | handleTrap | trap | selfTest =>
    cases quiet
  case config | entryAddress => exact .pure trivial
  case halt => exact .stop _
  case handler => exact withCode_alike (fun c => .bind_pure (.slot c) _ _) _
  case tableGet => exact withCode_alike (fun c => .bind_pure .get _ _) _
  case trappedInstruction => exact .bind_pure (Dispatcher.trappedInstruction_alike _ _) _ _
  case contextGet => exact .bind_pure (Dispatcher.contextGet_alike _ _) _ _
  case contextPut => exact .bind_pure (Dispatcher.contextPut_alike _ _ _) _ _
  case report => exact report_alike _ _ _
  case debugHandler => exact .bind_pure (Dispatcher.debugHandler_alike _) _ _
  case enableIrq =>
    exact withCode_alike (fun c => .bind_pure (.ite (.setBits _ _ _) (.pure trivial)) _ _) _
  case disableIrq =>
    exact withCode_alike (fun c => .bind_pure (.ite (.clearBits _ _ _) (.pure trivial)) _ _) _
  case enableInterrupts => exact .bind_pure (Dispatcher.enableInterrupts_alike _) _ _
  case disableInterrupts => exact .bind_pure (Dispatcher.disableInterrupts_alike _) _ _
  case restoreInterrupts => exact .bind_pure (.ite (.setBits _ _ _) (.pure trivial)) _ _
  case read csr => exact .bind_pure (.read csr) _ _
  case write => exact .bind_pure (.write _ _) _ _
  case setBits => exact .bind_pure (.setBits _ _ _) _ _
  case clearBits => exact .bind_pure (.clearBits _ _ _) _ _
  case load => exact .bind_pure (.load _) _ _
  case store => exact .bind_pure (.store _ _) _ _
  case poke csr value =>
    refine .bind_pure (.modifyHart ?_ ?_) _ _
    · intro h
      cases csr <;> rfl
    · intro h
      cases csr
      case hartId => cases straight
      all_goals rfl
  case fence | raise | pushFrame =>
    refine .bind_pure (R := Any) ?_ _ _
    exact .modifyHart (fun _ => rfl) fun _ => rfl
  case frame | backend => exact .bind_pure .get _ _
  case switchConsole =>
    refine .bind_pure (R := Any) ?_ _ _
    exact .modify (fun _ => rfl) fun _ => rfl
  case print | printHex | log => exact .bind_pure (.print _) _ _
  case printChars => exact .bind_pure (.printChars _) _ _
  case writer text => exact .bind_pure (.puts .registered text) _ _

end Scenario

end TrapDispatch
