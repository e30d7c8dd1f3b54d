import TrapDispatch.Proofs.DiagnosticLine
import TrapDispatch.Proofs.WholeTrap
import TrapDispatch.SelfTest

/-!
Actions that lead from one setting of a machine to another.

The setting is what the verdict of a self test can depend on and what it could spoil for a later
one: the table, three registers, the availability of the console, the notes about scripted handlers
and the test bench. Memory, the trap registers, the fences and all text are left out; a trap changes
them at every turn.

* `Act.Reaches`: from every machine of one setting the action returns a value and leaves a machine of
  the other. It passes through sequences (`Reaches.bind`).
* `Reaches.trap`: a trap reaches what the handler in its slot reaches.
* `CasesReach.performAll`: test cases in a row are tallied by their verdicts.
-/

namespace TrapDispatch

structure Setting where
  table : VectorTable
  status : Word
  trapVector : Word
  interruptEnable : Word
  available : Bool
  visits : List Visit
  bench : Bench

def Machine.setting (m : Machine) : Setting where
  table := m.table
  status := m.hart.csrs.status
  trapVector := m.hart.csrs.trapVector
  interruptEnable := m.hart.csrs.interruptEnable
  available := m.recorder.available
  visits := m.visits
  bench := m.bench

namespace Setting

/-- The setting with a handler in the slot of a code, or with the slot empty. -/
def install (σ : Setting) (c : Code) (slot : Option Handler) : Setting :=
  { σ with table := σ.table.install c slot }

/-- The registers that belong to a setting. -/
def read (σ : Setting) : Csr → Word
  | .status => σ.status
  | .trapVector => σ.trapVector
  | .interruptEnable => σ.interruptEnable
  | _ => 0#32

/-- A write to any other register is not noticed. -/
def write (σ : Setting) (csr : Csr) (value : Word) : Setting :=
  match csr with
  | .status => { σ with status := value }
  | .trapVector => { σ with trapVector := value }
  | .interruptEnable => { σ with interruptEnable := value }
  | _ => σ

/-- The setting with another count of probe calls. -/
def count (σ : Setting) (hits : Nat) : Setting := { σ with bench := { σ.bench with hits } }

/-- The setting with other notes on the registers of a program. -/
def saw (σ : Setting) (seenZero seenStack seenT2 : Word) : Setting :=
  { σ with bench := { σ.bench with seenZero, seenStack, seenT2 } }

end Setting

/-- An installed handler is found in its slot. -/
theorem Setting.get_install (σ : Setting) (c : Code) (slot : Option Handler) :
    (σ.install c slot).table.get c = slot := by
  rw [install, VectorTable.get_install, if_pos rfl]

/-- The last install into a slot is the one that counts. -/
@[simp] theorem VectorTable.install_install (t : VectorTable) (c : Code)
    (first second : Option Handler) : (t.install c first).install c second = t.install c second := by
  apply ext_get
  intro k
  simp only [get_install]
  split <;> rfl

/-- Putting back what a slot held changes nothing. -/
theorem Setting.install_get {σ : Setting} {c : Code} {slot : Option Handler}
    (held : σ.table.get c = slot) : σ.install c slot = σ := by
  have same : σ.table.install c slot = σ.table := by
    apply VectorTable.ext_get
    intro k
    rw [VectorTable.get_install]
    split
    · rename_i own
      rw [own, held]
    · rfl
  unfold install
  rw [same]

namespace Machine

@[simp] theorem setting_print (m : Machine) (text : String) : (m.print text).setting = m.setting := by
  rw [print_eq]
  split <;> rfl

theorem setting_printed (m : Machine) (c : Console) (text : String) (enables : Word) :
    (m.printed c text enables).setting = { m.setting with interruptEnable := enables } := by
  cases c <;> rfl

@[simp] theorem setting_entered (m : Machine) (event : TrapEvent) (x : Frame) :
    ({ m with hart := Dispatcher.enter event x m.hart } : Machine).setting = m.setting :=
  rfl

@[simp] theorem setting_advanced (m : Machine) (d : Dispatcher) (cause : Cause) :
    (d.advanced cause m).setting = m.setting := by
  unfold Dispatcher.advanced
  split <;> rfl

end Machine

namespace Act

variable {α β : Type} {σ τ υ : Setting}

/-- From every machine of the first setting the action returns the value and leaves a machine of the
second. -/
def Reaches (σ : Setting) (x : Act α) (a : α) (τ : Setting) : Prop :=
  ∀ m : Machine, m.setting = σ → ∃ s, x m = .ok a s ∧ s.setting = τ

namespace Reaches

theorem pure (a : α) : Reaches σ (Pure.pure a) a σ := fun m same => ⟨m, rfl, same⟩

theorem bind {x : Act α} {f : α → Act β} {a : α} {b : β} (first : Reaches σ x a τ)
    (second : Reaches τ (f a) b υ) : Reaches σ (x >>= f) b υ := by
  intro m start
  obtain ⟨s, ran, between⟩ := first m start
  obtain ⟨t, continued, final⟩ := second s between
  exact ⟨t, (bind_of_ok ran f).trans continued, final⟩

/-- The same with the final setting in another form. -/
theorem congr {x : Act α} {a : α} (ran : Reaches σ x a τ) (same : τ = υ) : Reaches σ x a υ :=
  same ▸ ran

theorem ite {c : Prop} [Decidable c] {x y : Act α} {a : α} (pos : c → Reaches σ x a τ)
    (neg : ¬ c → Reaches σ y a τ) : Reaches σ (if c then x else y) a τ := by
  split
  · rename_i h
    exact pos h
  · rename_i h
    exact neg h

/-- A question that the setting answers. -/
theorem get {f : Machine → Act β} {b : β}
    (answered : ∀ m, m.setting = σ → Reaches σ (f m) b τ) :
    Reaches σ (MonadState.get >>= f) b τ := fun m start => answered m start m start

/-- A change that a setting goes along with. -/
theorem modify {f : Machine → Machine} {g : Setting → Setting}
    (follows : ∀ m, (f m).setting = g m.setting) : Reaches σ (modify f) () (g σ) := by
  rintro m rfl
  exact ⟨f m, rfl, follows m⟩

theorem slot (c : Code) : Reaches σ (Act.slot c) (σ.table.get c) σ := by
  rintro m rfl
  exact ⟨m, rfl, rfl⟩

theorem hits : Reaches σ Act.hits σ.bench.hits σ := by
  rintro m rfl
  exact ⟨m, rfl, rfl⟩

theorem clearHits : Reaches σ Act.clearHits () (σ.count 0) :=
  modify (g := (·.count 0)) fun _ => rfl

theorem print (text : String) : Reaches σ (Act.print text) () σ :=
  modify (g := id) fun m => m.setting_print text

/-- Setting bits of a register, whichever way the dispatcher does it. -/
theorem setBits (via : BitAccess) (csr : Csr) (mask : Word) :
    Reaches σ (Act.setBits via csr mask) () (σ.write csr (σ.read csr ||| mask)) := by
  rintro m rfl
  refine ⟨{ m with hart := m.hart.setBits via csr mask }, rfl, ?_⟩
  rw [Hart.setBits, Csrs.setBits_eq]
  cases csr <;> rfl

theorem clearBits (via : BitAccess) (csr : Csr) (mask : Word) :
    Reaches σ (Act.clearBits via csr mask) () (σ.write csr (σ.read csr &&& ~~~mask)) := by
  rintro m rfl
  refine ⟨{ m with hart := m.hart.clearBits via csr mask }, rfl, ?_⟩
  rw [Hart.clearBits, Csrs.clearBits_eq]
  cases csr <;> rfl

/-- An install for a word that encodes a code. -/
theorem install (c : Code) (slot : Option Handler) :
    Reaches σ (Act.install c.bits slot) (.ok ()) (σ.install c slot) := by
  rintro m rfl
  have installed := Act.install_apply c.bits slot m
  rw [VectorTable.installWord, Code.ofBits_bits] at installed
  exact ⟨_, installed, rfl⟩

/-- An install for a word that encodes none. -/
theorem install_invalid {w : Word} {e : InvalidCode} (invalid : Code.ofBits w = .error e)
    (slot : Option Handler) : Reaches σ (Act.install w slot) (.error e) σ := by
  rintro m rfl
  have refused := Act.install_apply w slot m
  rw [VectorTable.installWord, invalid] at refused
  exact ⟨_, refused, rfl⟩

end Reaches

end Act

/-! ### Traps -/

namespace SelfTest

/-- The debug handler and the probes of the rig do what they are there for. Of its scripted handlers
nothing is known. -/
structure Rig.Genuine (r : Rig) : Prop where
  debug : r.behaviour .debug = r.dispatcher.debugHandler
  probe : ∀ which, r.behaviour (.probe which) = which.run r.dispatcher

end SelfTest

open SelfTest

namespace Act

variable {β : Type} {σ τ υ : Setting}

/-- What an action reaches from a machine that has entered a trap of the cause. -/
def Handles (σ : Setting) (cause : Word) (x : Act Unit) (τ : Setting) : Prop :=
  ∀ m : Machine, m.setting = σ → m.hart.csrs.cause = cause → ∃ s, x m = .ok () s ∧ s.setting = τ

theorem Reaches.handles {x : Act Unit} (reaches : Reaches σ x () τ) (cause : Word) :
    Handles σ cause x τ := fun m start _ => reaches m start

/-- The debug handler resumes after an exception that is not fatal, and leaves no trace. -/
theorem Handles.debug {r : Rig} (genuine : r.Genuine) {cause : Word}
    (exception : cause.getLsbD 31 = false)
    (harmless : ¬ (cause = 0#32 ∨ cause = 1#32 ∨ cause = 16#32)) :
    Handles σ cause (r.behaviour .debug) σ := by
  rintro m rfl rfl
  have recoverable : Cause.disposition ⟨m.hart.csrs.cause⟩ = .recoverableException := by
    rw [Cause.disposition_eq, exception, if_neg Bool.false_ne_true, if_neg harmless]
  have enables := m.hart.reportedEnables_of_recoverable recoverable
  rw [genuine.debug, Dispatcher.debugHandler_apply, recoverable, Dispatcher.reported_eq, enables]
  split
  · exact ⟨_, rfl, Machine.setting_printed ..⟩
  · exact ⟨_, rfl, rfl⟩

/-- A trap reaches what the handler in its slot reaches, when the registers that it answers do not
matter: entry and exit keep the setting. -/
theorem Reaches.trap {r : Rig} {event : TrapEvent} {x : Frame} {f : Frame → Act β} {b : β}
    (called : Handles σ event.cause
      (Dispatcher.call r.behaviour (σ.table.get (Cause.code ⟨event.cause⟩))) τ)
    (rest : ∀ y, Reaches τ (f y) b υ) : Reaches σ (r.trap event x >>= f) b υ := by
  rintro m rfl
  obtain ⟨s, ran, left⟩ := called
    { m with hart := Dispatcher.enter event x.hardwireZero m.hart } (m.setting_entered ..) rfl
  have taken := r.dispatcher.takeTrap_returns r.behaviour ran
  obtain ⟨t, continued, final⟩ := rest _ _ ((s.setting_advanced ..).trans left)
  exact ⟨t, (bind_of_ok taken f).trans continued, final⟩

end Act

open Act

/-! ### Test cases in a row -/

/-- Cases that give these verdicts, one after another, and lead from one setting to the other. -/
inductive CasesReach : Setting → List TestCase → List Verdict → Setting → Prop where
  | nil (σ : Setting) : CasesReach σ [] [] σ
  | cons {σ τ υ : Setting} {c : TestCase} {cs : List TestCase} {v : Verdict} {vs : List Verdict} :
    Reaches σ c.run v τ → CasesReach τ cs vs υ → CasesReach σ (c :: cs) (v :: vs) υ

/-- One case, with the lines that are printed around it. -/
theorem Act.Reaches.perform {σ τ : Setting} {c : TestCase} {v : Verdict}
    (ran : Reaches σ c.run v τ) (t : Tally) : Reaches σ (c.perform t) (t.add v) τ :=
  .bind (.print _) (.bind ran (.bind (.print _) (.pure _)))

namespace CasesReach

variable {σ τ : Setting} {vs : List Verdict}

/-- Running the cases tallies their verdicts. -/
theorem performAll {cs : List TestCase} (cases : CasesReach σ cs vs τ) (t : Tally) :
    Reaches σ (TestCase.performAll cs t) (vs.foldl Tally.add t) τ := by
  induction cases generalizing t with
  | nil σ => exact .pure t
  | cons first _ ih => exact .bind (first.perform t) (ih _)

theorem perform {suite : TestSuite} (cases : CasesReach σ suite.cases vs τ) (t : Tally) :
    Reaches σ (suite.perform t) (vs.foldl Tally.add t) τ :=
  .bind (.print _) (.bind (cases.performAll t) (.bind (.print _) (.pure _)))

end CasesReach

end TrapDispatch
