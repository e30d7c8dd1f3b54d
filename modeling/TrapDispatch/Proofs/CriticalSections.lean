import TrapDispatch.Proofs.DiagnosticLine
import TrapDispatch.Proofs.FrameStore

/-!
Sections of code in which interrupts are off, or on, nested in each other.

A section is opened by `disableInterrupts` or by `enableInterrupts`, and it ends by restoring what
that answered. `Sections` is code made of such sections and of operations; `Passes` says which points
its run goes through.

* `Discipline`: a condition on the status register, by the number of open sections, that is carried on
  by opening a section and by ending it. `Discipline.run`: it holds at all points of a run whose
  operations leave the register alone, by induction over the code.
* `Moment.Plain.calm`: the operations of the runtime that leave it alone.
* `critical_sections_nest`: disabled interrupts stay off until the outermost section ends, and the
  register is then what it was.
* `enabled_sections_leave_interrupts_on`: sections that enable interrupts leave them on, so they put
  the register back only if interrupts were on before.
-/

namespace TrapDispatch

/-! ### The status register -/

namespace Machine

variable (m : Machine) (σ : Word)

def status : Word := m.hart.csrs.status

/-- The machine with another status register and all else as it is. -/
def withStatus : Machine := { m with hart := { m.hart with csrs := { m.hart.csrs with status := σ } } }

@[simp] theorem status_withStatus : (m.withStatus σ).status = σ := rfl

end Machine

namespace Dispatcher

variable (d : Dispatcher) (m : Machine)

theorem interruptsEnabled_apply : interruptsEnabled m = .ok (m.status.getLsbD 3) m := by
  have flag : decide (m.status &&& interruptFlag ≠ 0#32) = m.status.getLsbD 3 := by
    rw [Bool.eq_iff_iff, decide_eq_true_iff]
    exact Word.and_bit_ne_zero_iff ..
  rw [← flag]
  rfl

theorem disableInterrupts_apply : d.disableInterrupts m =
    .ok (m.status.getLsbD 3) (m.withStatus (m.status &&& ~~~interruptFlag)) := by
  unfold disableInterrupts
  rw [Act.bind_of_ok (interruptsEnabled_apply m), Act.clearBits_eq]
  rfl

theorem setFlag_apply : Act.setBits d.access .status interruptFlag m =
    .ok () (m.withStatus (m.status ||| interruptFlag)) := by
  rw [Act.setBits_eq]
  rfl

theorem enableInterrupts_apply : d.enableInterrupts m =
    .ok (m.status.getLsbD 3) (m.withStatus (m.status ||| interruptFlag)) := by
  unfold enableInterrupts
  rw [Act.bind_of_ok (interruptsEnabled_apply m), Act.bind_of_ok (d.setFlag_apply m)]
  rfl

theorem restoreInterrupts_apply (was : Bool) : d.restoreInterrupts was m =
    .ok () (m.withStatus (if was = true then m.status ||| interruptFlag else m.status)) := by
  cases was with
  | true => exact d.setFlag_apply m
  | false => rfl

end Dispatcher

/-! ### Operations that leave it alone -/

namespace Moment

/-- The operation returns and leaves the status register as it finds it. -/
def Calm (s : Scenario) (now : Moment) : Prop :=
  ∃ reply after, s.perform s.behaviour now.op now.machine = .ok reply after ∧
    after.status = now.machine.status

/-- Installing a handler, enabling or disabling a source, an access to an aligned frame, and a trap
that finds an empty slot or a debug handler which does not halt. -/
inductive Plain : Moment → Prop
  | install (m : Machine) (code : Word) (slot : Option Handler) : Plain ⟨m, .install code slot⟩
  | enableIrq (m : Machine) (code : Word) : Plain ⟨m, .enableIrq code⟩
  | disableIrq (m : Machine) (code : Word) : Plain ⟨m, .disableIrq code⟩
  | access (m : Machine) (a : FrameAccess) (aligned : m.hart.csrs.scratch.toNat % 4 = 0) :
      Plain ⟨m, a.op⟩
  | unhandled (m : Machine) (via : BitAccess)
      (empty : m.table.get (Cause.code ⟨m.hart.csrs.cause⟩) = none) : Plain ⟨m, .handleTrap via⟩
  | reported (m : Machine) (via : BitAccess)
      (debug : m.table.get (Cause.code ⟨m.hart.csrs.cause⟩) = some .debug)
      (goesOn : m.recorder.available = true →
        ¬ (m.hart.csrs.cause = 0#32 ∨ m.hart.csrs.cause = 1#32 ∨ m.hart.csrs.cause = 16#32)) :
      Plain ⟨m, .handleTrap via⟩

end Moment

namespace Dispatcher

variable (d : Dispatcher)

theorem status_enableIrq (c : Code) (m : Machine) :
    ∃ after, d.enableIrq c m = .ok () after ∧ after.status = m.status := by
  unfold enableIrq
  split
  · rw [Act.setBits_eq]
    exact ⟨_, rfl, rfl⟩
  · exact ⟨m, rfl, rfl⟩

theorem status_disableIrq (c : Code) (m : Machine) :
    ∃ after, d.disableIrq c m = .ok () after ∧ after.status = m.status := by
  unfold disableIrq
  split
  · rw [Act.clearBits_eq]
    exact ⟨_, rfl, rfl⟩
  · exact ⟨m, rfl, rfl⟩

theorem status_advanced (cause : Cause) (m : Machine) : (d.advanced cause m).status = m.status := by
  unfold advanced
  split <;> rfl

/-- A dispatch leaves the status register as the call of the slot leaves it. -/
theorem status_handleTrap {behaviour : Behaviour} {m after : Machine}
    (called : call behaviour (m.table.get (Cause.code ⟨m.hart.csrs.cause⟩)) m = .ok () after) :
    ∃ last, d.handleTrap behaviour m = .ok () last ∧ last.status = after.status := by
  refine ⟨d.advanced ⟨m.hart.csrs.cause⟩ after, ?_, d.status_advanced _ after⟩
  rw [handleTrap_apply, called]
  exact d.advance_apply _ after

/-- The debug handler returns unless its console is there for a fatal exception. -/
theorem status_debugHandler {m : Machine} (goesOn : m.recorder.available = true →
      ¬ (m.hart.csrs.cause = 0#32 ∨ m.hart.csrs.cause = 1#32 ∨ m.hart.csrs.cause = 16#32)) :
    ∃ after, d.debugHandler m = .ok () after ∧ after.status = m.status := by
  rw [debugHandler_apply]
  by_cases available : m.recorder.available = true
  · have harmless : ¬ Cause.disposition ⟨m.hart.csrs.cause⟩ = .fatalException :=
      fun fatal => goesOn available ((Cause.disposition_eq_fatal_iff _).mp fatal)
    rw [if_pos available, if_neg harmless]
    refine ⟨_, rfl, ?_⟩
    rw [reported_eq]
    rfl
  · rw [if_neg available]
    exact ⟨m, rfl, rfl⟩

end Dispatcher

/-- An operation on the source of a code word is calm if the word encodes no code, and otherwise if
what it does for the code is. -/
theorem Scenario.status_withCode {act : Code → Act Unit} {m : Machine}
    (acts : ∀ c, ∃ after, act c m = .ok () after ∧ after.status = m.status) (code : Word) :
    ∃ reply after, withCode code (fun c => do act c; return .nothing) m = .ok reply after ∧
      after.status = m.status := by
  unfold withCode
  cases Code.ofBits code with
  | ok c =>
      obtain ⟨after, acted, same⟩ := acts c
      exact ⟨.nothing, after, Act.bind_of_ok acted _, same⟩
  | error e => exact ⟨.invalid e, m, rfl, rfl⟩

theorem Moment.Plain.calm {now : Moment} (plain : now.Plain) (s : Scenario) : now.Calm s := by
  have trap {m last : Machine} {via : BitAccess}
      (handled : (s.dispatcher via).handleTrap s.behaviour m = .ok () last)
      (same : last.status = m.status) : Moment.Calm s ⟨m, .handleTrap via⟩ :=
    ⟨.nothing, last, Act.bind_of_ok handled _, same⟩
  cases plain with
  | install m code slot =>
      have installed := Act.install_apply code slot m
      unfold Calm Scenario.perform
      simp only [Act.bind_of_ok installed]
      cases Code.ofBits code with
      | ok c => exact ⟨.accepted, _, rfl, rfl⟩
      | error e => exact ⟨.invalid e, _, rfl, rfl⟩
  | enableIrq m code => exact Scenario.status_withCode (fun c => s.native.status_enableIrq c m) code
  | disableIrq m code =>
      exact Scenario.status_withCode (fun c => s.native.status_disableIrq c m) code
  | access m a aligned =>
      exact ⟨_, _, (s.perform_access_eq s.behaviour m a).trans (if_pos aligned), rfl⟩
  | unhandled m via empty =>
      have called : Dispatcher.call s.behaviour (m.table.get (Cause.code ⟨m.hart.csrs.cause⟩)) m =
          .ok () m := by
        rw [empty]
        rfl
      obtain ⟨last, handled, same⟩ := (s.dispatcher via).status_handleTrap called
      exact trap handled same
  | reported m via debug goesOn =>
      obtain ⟨after, returned, kept⟩ := s.native.status_debugHandler goesOn
      have called : Dispatcher.call s.behaviour (m.table.get (Cause.code ⟨m.hart.csrs.cause⟩)) m =
          .ok () after := by
        rw [debug]
        exact returned
      obtain ⟨last, handled, same⟩ := (s.dispatcher via).status_handleTrap called
      exact trap handled (same.trans kept)

/-! ### Sections -/

/-- Code in which sections are properly nested. -/
inductive Sections where
  | done
  /-- An operation, and what follows it. -/
  | step (op : Op) (rest : Sections)
  /-- A section around some code, and what follows it. -/
  | enclosed (body rest : Sections)

/-- What comes next at a point of a run. -/
inductive Next where
  | op (op : Op)
  | enter
  /-- The end of a section, with what its opening answered. -/
  | leave (was : Bool)

/-- A point of a run: how many sections are open, the machine, and what comes next. -/
structure Point where
  depth : Nat
  machine : Machine
  next : Next

namespace Sections

variable (s : Scenario) (opening : Act Bool)

/-- Run the code. A section ends by restoring what its opening answered. -/
def run : Sections → Act Unit
  | done => pure ()
  | step op rest => do
    let _ ← s.perform s.behaviour op
    rest.run
  | enclosed body rest => do
    let was ← opening
    body.run
    s.native.restoreInterrupts was
    rest.run

/-- The run of the code from a machine, with some sections open already, goes through a point. -/
inductive Passes : Sections → Nat → Machine → Point → Prop
  | here {op rest depth m} : Passes (step op rest) depth m ⟨depth, m, .op op⟩
  | later {op rest depth m reply after p} (performed : s.perform s.behaviour op m = .ok reply after)
      (passes : Passes rest depth after p) : Passes (step op rest) depth m p
  | enter {body rest depth m} : Passes (enclosed body rest) depth m ⟨depth, m, .enter⟩
  | inside {body rest depth m was inner p} (opened : opening m = .ok was inner)
      (passes : Passes body (depth + 1) inner p) : Passes (enclosed body rest) depth m p
  | leave {body rest depth m was inner last} (opened : opening m = .ok was inner)
      (ended : body.run s opening inner = .ok () last) :
      Passes (enclosed body rest) depth m ⟨depth + 1, last, .leave was⟩
  | behind {body rest depth m was inner last after p} (opened : opening m = .ok was inner)
      (ended : body.run s opening inner = .ok () last)
      (restored : s.native.restoreInterrupts was last = .ok () after)
      (passes : Passes rest depth after p) : Passes (enclosed body rest) depth m p

/-- Wherever the run carries out an operation, this returns and leaves the status register alone. -/
def Calm (code : Sections) (depth : Nat) (m : Machine) : Prop :=
  ∀ p, code.Passes s opening depth m p → ∀ op, p.next = .op op → Moment.Calm s ⟨p.machine, op⟩

variable {s opening}

/-- The operations of the code. -/
def ops : Sections → List Op
  | done => []
  | step op rest => op :: rest.ops
  | enclosed body rest => body.ops ++ rest.ops

theorem Passes.mem_ops {code : Sections} {depth : Nat} {m : Machine} {p : Point}
    (passes : code.Passes s opening depth m p) {op : Op} (next : p.next = .op op) : op ∈ code.ops := by
  induction passes with
  | here =>
      cases next
      exact List.mem_cons_self
  | later _ _ ih => exact List.mem_cons_of_mem _ (ih next)
  | enter => cases next
  | inside _ _ ih => exact List.mem_append_left _ (ih next)
  | leave => cases next
  | behind _ _ _ _ ih => exact List.mem_append_right _ (ih next)

/-- Code is calm if its operations are, whatever machine they find. -/
theorem calm_of_ops {code : Sections} {depth : Nat} {m : Machine}
    (calm : ∀ op ∈ code.ops, ∀ m, Moment.Calm s ⟨m, op⟩) : code.Calm s opening depth m :=
  fun p passes op next => calm op (passes.mem_ops next) p.machine

/-- A section runs its body between the opening and the restoring. -/
theorem run_enclosed {body rest : Sections} {m inner last after : Machine} {was : Bool}
    (opened : opening m = .ok was inner) (ended : body.run s opening inner = .ok () last)
    (restored : s.native.restoreInterrupts was last = .ok () after) :
    (enclosed body rest).run s opening m = rest.run s opening after := by
  rw [run, Act.bind_of_ok opened, Act.bind_of_ok ended, Act.bind_of_ok restored]

end Sections

open Dispatcher (interruptFlag)

variable {s : Scenario} {opening : Act Bool} {holds : Nat → Word → Prop}

/-- A condition on the status register, by the number of open sections: opening a section carries it
on and answers whether interrupts were on, and so does putting that back at the end. -/
structure Discipline (opening : Act Bool) (holds : Nat → Word → Prop) : Prop where
  opens {depth : Nat} {m : Machine} (start : holds depth m.status) :
    ∃ inner, opening m = .ok (m.status.getLsbD 3) inner ∧ holds (depth + 1) inner.status
  ends {depth : Nat} {σ τ : Word} (before : holds depth σ) (inside : holds (depth + 1) τ) :
    holds depth (if σ.getLsbD 3 = true then τ ||| interruptFlag else τ)

/-- **A run of sections**, by induction over the code: it returns, and the condition holds at every
point and at the end. -/
theorem Discipline.run (keeps : Discipline opening holds) (code : Sections) {depth : Nat} {m : Machine}
    (calm : code.Calm s opening depth m) (start : holds depth m.status) :
    (∃ after, code.run s opening m = .ok () after ∧ holds depth after.status) ∧
      ∀ p, code.Passes s opening depth m p → holds p.depth p.machine.status := by
  induction code generalizing depth m with
  | done =>
      refine ⟨⟨m, rfl, start⟩, fun p passes => ?_⟩
      cases passes
  | step op rest ih =>
      obtain ⟨reply, after, performed, same⟩ := calm _ .here op rfl
      have start' : holds depth after.status := by
        rw [same]
        exact start
      obtain ⟨⟨last, returned, final⟩, points⟩ :=
        ih (fun p passes => calm p (.later performed passes)) start'
      refine ⟨⟨last, (Act.bind_of_ok performed _).trans returned, final⟩, fun p passes => ?_⟩
      cases passes with
      | here => exact start
      | later performed' passes =>
          cases performed.symm.trans performed'
          exact points p passes
  | enclosed body rest ihBody ihRest =>
      obtain ⟨inner, opened, entered⟩ := keeps.opens start
      obtain ⟨⟨last, ended, inside⟩, within⟩ :=
        ihBody (fun p passes => calm p (.inside opened passes)) entered
      have restored := s.native.restoreInterrupts_apply last (m.status.getLsbD 3)
      obtain ⟨⟨after, returned, final⟩, behind⟩ :=
        ihRest (fun p passes => calm p (.behind opened ended restored passes))
          (keeps.ends start inside)
      refine ⟨⟨after, (Sections.run_enclosed opened ended restored).trans returned, final⟩,
        fun p passes => ?_⟩
      cases passes with
      | enter => exact start
      | inside opened' passes =>
          cases opened.symm.trans opened'
          exact within p passes
      | leave opened' ended' =>
          cases opened.symm.trans opened'
          cases ended.symm.trans ended'
          exact inside
      | behind opened' ended' restored' passes =>
          cases opened.symm.trans opened'
          cases ended.symm.trans ended'
          cases restored.symm.trans restored'
          exact behind p passes

/-! ### Interrupts off -/

/-- Interrupts are off in all sections, and outside the register is what it was. -/
theorem Discipline.disabling (d : Dispatcher) (σ : Word) : Discipline d.disableInterrupts
    fun depth τ => τ = if depth = 0 then σ else σ &&& ~~~interruptFlag where
  opens {depth m} start := by
    refine ⟨_, d.disableInterrupts_apply m, ?_⟩
    rw [Machine.status_withStatus, if_neg (Nat.succ_ne_zero depth), start]
    split
    · rfl
    · exact Word.and_not_bit_and_not_bit ..
  ends {depth σ' τ} before inside := by
    rw [if_neg (Nat.succ_ne_zero depth)] at inside
    subst inside before
    by_cases outermost : depth = 0
    · simp only [if_pos outermost]
      exact Word.restore_bit σ ⟨3, by decide⟩
    · have off : (σ &&& ~~~interruptFlag).getLsbD 3 = false :=
        (Word.getLsbD_and_not_bit σ ⟨3, by decide⟩ ⟨3, by decide⟩).trans (if_pos rfl)
      simp only [if_neg outermost, off, Bool.false_eq_true, if_false]

namespace Scenario

/-- **Nested critical sections.** Take code in which sections `was := disableInterrupts; body;
restoreInterrupts was` are properly nested, and a run in which every operation returns and leaves the
status register alone. The run returns, with the status register as it was. Interrupts are off at
every point inside a section, in particular behind each inner restoring, and outside of all sections
the register is what it was at the start. Wherever a section begins, `disableInterrupts` answers
whether interrupts are on. Installing handlers, enabling and disabling sources, accesses to an aligned
frame, and traps to an empty slot or to a debug handler that does not halt are such operations. -/
theorem critical_sections_nest (s : Scenario) (code : Sections) (m : Machine)
    (calm : code.Calm s s.native.disableInterrupts 0 m) :
    (∃ after, code.run s s.native.disableInterrupts m = .ok () after ∧ after.status = m.status) ∧
    (∀ p, code.Passes s s.native.disableInterrupts 0 m p →
      (0 < p.depth → p.machine.status.getLsbD 3 = false) ∧
      (p.depth = 0 → p.machine.status = m.status) ∧
      (p.next = .enter → (s.native.disableInterrupts.outcome p.machine).1 =
        .ok (p.machine.status.getLsbD 3))) ∧
    ∀ now : Moment, now.Plain → now.Calm s := by
  obtain ⟨returned, points⟩ := (Discipline.disabling s.native m.status).run code calm rfl
  refine ⟨returned, fun p passes => ?_, fun now plain => plain.calm s⟩
  have status := points p passes
  refine ⟨fun inside => ?off, fun outside => ?same, fun _ => ?answer⟩
  case off =>
    rw [status, if_neg (Nat.ne_of_gt inside)]
    exact (Word.getLsbD_and_not_bit _ ⟨3, by decide⟩ ⟨3, by decide⟩).trans (if_pos rfl)
  case same => rw [status, if_pos outside]
  case answer => rw [Act.outcome_of_ok (s.native.disableInterrupts_apply p.machine)]

/-! A section that switches the source of the timer on in a section of its own, and then off. -/

def statusMachine (status : Word) : Machine := .start
  { Hart.initial 0#32 with csrs := { Csrs.initial 0#32 with status } } .empty true

def timerSections : Sections :=
  .enclosed (.enclosed (.step (.enableIrq Code.machineTimer.bits) .done)
    (.step (.disableIrq Code.machineTimer.bits) .done)) .done

theorem timerSections_calm (opening : Act Bool) (m : Machine) :
    timerSections.Calm plainScenario opening 0 m := by
  refine Sections.calm_of_ops fun op member m => Moment.Plain.calm ?_ plainScenario
  simp only [timerSections, Sections.ops, List.append_nil, List.cons_append, List.nil_append,
    List.mem_cons, List.not_mem_nil, or_false] at member
  obtain rfl | rfl := member
  · exact .enableIrq ..
  · exact .disableIrq ..

theorem critical_sections_nest_timer :
    let d := plainScenario.native
    let start := statusMachine 0x1888#32
    timerSections.Calm plainScenario d.disableInterrupts 0 start ∧
      (∃ after, timerSections.run plainScenario d.disableInterrupts start = .ok () after ∧
        after.status = 0x1888#32) ∧
      ∃ p, timerSections.Passes plainScenario d.disableInterrupts 0 start p ∧
        p.next = .op (.disableIrq Code.machineTimer.bits) ∧ p.machine.status.getLsbD 3 = false := by
  intro d start
  have calm := timerSections_calm d.disableInterrupts start
  obtain ⟨returned, points, -⟩ := critical_sections_nest plainScenario timerSections start calm
  -- The point behind the inner section.
  have opened := d.disableInterrupts_apply start
  let inner := start.withStatus (start.status &&& ~~~interruptFlag)
  have reopened := d.disableInterrupts_apply inner
  obtain ⟨reply, last, performed, -⟩ := (Moment.Plain.enableIrq
    (inner.withStatus (inner.status &&& ~~~interruptFlag)) Code.machineTimer.bits).calm plainScenario
  have ended : (Sections.step (.enableIrq Code.machineTimer.bits) .done).run plainScenario
      d.disableInterrupts (inner.withStatus (inner.status &&& ~~~interruptFlag)) = .ok () last :=
    Act.bind_of_ok performed _
  have restored := d.restoreInterrupts_apply last (inner.status.getLsbD 3)
  have passes : timerSections.Passes plainScenario d.disableInterrupts 0 start ⟨1, _, _⟩ :=
    .inside opened (.behind reopened ended restored .here)
  exact ⟨calm, returned, _, passes, rfl, (points _ passes).1 Nat.one_pos⟩

end Scenario

/-! ### Interrupts on -/

/-- With interrupts on, restoring does not change the register, whatever is restored. -/
theorem Dispatcher.restored_on (σ : Word) (was : Bool) :
    (if was = true then σ ||| interruptFlag ||| interruptFlag else σ ||| interruptFlag) =
      σ ||| interruptFlag := by
  have kept : σ ||| interruptFlag ||| interruptFlag = σ ||| interruptFlag := Word.or_bit_or_bit ..
  rw [kept, ite_self]

/-- With interrupts on, the register stays as it is. -/
theorem Discipline.enabling (d : Dispatcher) (σ : Word) :
    Discipline d.enableInterrupts fun _ τ => τ = σ ||| interruptFlag where
  opens {_ m} start := by
    refine ⟨_, d.enableInterrupts_apply m, ?_⟩
    rw [Machine.status_withStatus, start]
    exact Word.or_bit_or_bit ..
  ends {_ _ τ} _ inside := by
    rw [inside]
    exact Dispatcher.restored_on σ _

namespace Scenario

/-- **Sections that enable interrupts leave them on.** Take a section `was := enableInterrupts; body;
restoreInterrupts was` and what follows it, with such sections properly nested, and a run in which
every operation returns and leaves the status register alone. The run returns with interrupts on and
the rest of the register as it was. So the register is what it was exactly if interrupts were on
before. -/
theorem enabled_sections_leave_interrupts_on (s : Scenario) (body rest : Sections) (m : Machine)
    (calm : (Sections.enclosed body rest).Calm s s.native.enableInterrupts 0 m) :
    ∃ after, (Sections.enclosed body rest).run s s.native.enableInterrupts m = .ok () after ∧
      after.status = m.status ||| interruptFlag ∧
      (after.status = m.status ↔ m.status.getLsbD 3 = true) := by
  have keeps := Discipline.enabling s.native m.status
  have opened := s.native.enableInterrupts_apply m
  obtain ⟨⟨last, ended, on⟩, -⟩ :=
    keeps.run body (fun p passes => calm p (.inside opened passes)) rfl
  have restored := s.native.restoreInterrupts_apply last (m.status.getLsbD 3)
  have stays : (if m.status.getLsbD 3 = true then last.status ||| interruptFlag else last.status) =
      m.status ||| interruptFlag := by
    rw [on]
    exact Dispatcher.restored_on m.status _
  obtain ⟨⟨after, returned, final⟩, -⟩ :=
    keeps.run rest (fun p passes => calm p (.behind opened ended restored passes)) stays
  refine ⟨after, (Sections.run_enclosed opened ended restored).trans returned, final, ?_⟩
  rw [final]
  exact Word.or_bit_eq_self_iff ..

/-- The same code with sections that enable interrupts, entered while they are off. -/
theorem enabled_sections_leave_interrupts_on_idle :
    let d := plainScenario.native
    let start := statusMachine 0x1880#32
    timerSections.Calm plainScenario d.enableInterrupts 0 start ∧
      ∃ after, timerSections.run plainScenario d.enableInterrupts start = .ok () after ∧
        after.status = 0x1888#32 := by
  intro d start
  have calm := timerSections_calm d.enableInterrupts start
  have flagged : 0x1880#32 ||| interruptFlag = 0x1888#32 := by decide
  obtain ⟨after, returned, status, -⟩ :=
    enabled_sections_leave_interrupts_on plainScenario _ .done start calm
  exact ⟨calm, after, returned, status.trans flagged⟩

/-- A section that enables interrupts does not put the status register back when they were off: what
its opening answered is not restored. -/
theorem enabled_section_not_restored :
    (statusMachine 0#32).status = 0#32 ∧
      (((Sections.enclosed .done .done).run plainScenario plainScenario.native.enableInterrupts).outcome
        (statusMachine 0#32)).2.status = 8#32 :=
  ⟨rfl, rfl⟩

end Scenario

end TrapDispatch
