import TrapDispatch.Board
import TrapDispatch.Proofs.TableOperations
import TrapDispatch.Proofs.WholeTrap

/-!
Who changes the interrupt enables of a hart.

The enable of an interrupt source is one bit. An operation of the runtime sets it, clears it or
leaves it alone (`Moment.enableEvent`): `enableIrq` and `disableIrq` for the code of the interrupt, a
setup, and the debug handler for an interrupt of that source or a fatal exception. So along a run the
bit tells which of these came last.

* `enables_perform`: what one operation does to the bit.
* `enable_run`: what a run does to it, by induction over the steps.
* `reports_le_enable`: an interrupt that is delivered only while it is enabled reaches the debug
  handler at most once until it is enabled again; the bit itself is what decreases.
* `enables_have_owners`: the two together, for any run on a board.
-/

namespace TrapDispatch

/-- The cause is an interrupt of the source with this index; other bits do not matter. -/
def Cause.Interrupts (c : Cause) (k : Fin 32) : Prop :=
  c.bits.getLsbD 31 = true ∧ c.bits &&& 0x1f#32 = BitVec.ofNat 32 k.val

instance (c : Cause) (k : Fin 32) : Decidable (c.Interrupts k) := inferInstanceAs (Decidable (_ ∧ _))

/-- The debug handler takes the enable of a source away: for a fatal exception and for an interrupt
of the source. -/
def Cause.Disables (c : Cause) (k : Fin 32) : Prop :=
  (c.bits = 0#32 ∨ c.bits = 1#32 ∨ c.bits = 16#32) ∨ c.Interrupts k

instance (c : Cause) (k : Fin 32) : Decidable (c.Disables k) := inferInstanceAs (Decidable (_ ∨ _))

theorem Cause.interrupts_iff (c : Cause) (k : Fin 32) :
    c.Interrupts k ↔ c.bits.getLsbD 31 = true ∧ k = c.code.index := by
  have index : c.bits &&& 0x1f#32 = BitVec.ofNat 32 k.val ↔ k = c.code.index := by
    rw [← BitVec.toNat_inj, Word.toNat_and_low5, BitVec.toNat_ofNat, Nat.mod_eq_of_lt (by omega),
      ← Fin.val_inj]
    exact eq_comm
  exact and_congr Iff.rfl index

/-- The bit that a report leaves. -/
theorem Hart.getLsbD_reportedEnables (h : Hart) (k : Fin 32) :
    h.reportedEnables.getLsbD k.val =
      if Cause.Disables ⟨h.csrs.cause⟩ k then false else h.csrs.interruptEnable.getLsbD k.val := by
  have disables : Cause.Disables ⟨h.csrs.cause⟩ k ↔ _ := or_congr Iff.rfl (Cause.interrupts_iff _ k)
  have mask := Cause.bit_code_index ⟨h.csrs.cause⟩
  unfold Hart.reportedEnables
  simp only [disables, ← mask]
  by_cases interrupt : h.csrs.cause.getLsbD 31 = true
  · -- An interrupt is no fatal exception, so it is the index that decides.
    have exception : ¬ (h.csrs.cause = 0#32 ∨ h.csrs.cause = 1#32 ∨ h.csrs.cause = 16#32) := by
      rintro (zero | one | sixteen)
      · rw [zero] at interrupt
        cases interrupt
      · rw [one] at interrupt
        cases interrupt
      · rw [sixteen] at interrupt
        cases interrupt
    simp only [interrupt, exception, if_true, if_false, true_and, false_or,
      Word.getLsbD_and_not_bit]
  · simp only [interrupt, Bool.false_eq_true, if_false, false_and, or_false]
    by_cases fatal : h.csrs.cause = 0#32 ∨ h.csrs.cause = 1#32 ∨ h.csrs.cause = 16#32
    · simp only [if_pos fatal, BitVec.getLsbD_zero]
    · simp only [if_neg fatal]

/-! ### What an operation does to one enable -/

namespace Moment

/-- The cause of the trap that the operation takes to the debug handler, if it takes one there. -/
def reportedCause (now : Moment) : Option Cause :=
  match now.op.trapCause now.machine.hart with
  | some c => if now.machine.table.get (Cause.code ⟨c⟩) = some .debug then some ⟨c⟩ else none
  | none => none

/-- What the operation does to the enable of an interrupt source: it sets it, it clears it, or it
leaves it alone. Only the code of the interrupt counts, never that of the exception of its index. -/
def enableEvent (k : Fin 32) (now : Moment) : Option Bool :=
  match now.op with
  | .enableIrq code => if code = Code.bits ⟨.interrupt, k⟩ then some true else none
  | .disableIrq code => if code = Code.bits ⟨.interrupt, k⟩ then some false else none
  | .setup .. | .start => some false
  | _ =>
    match now.reportedCause with
    | some c => if c.Disables k then some false else none
    | none => none

end Moment

/-- The operations of a run: those of the runtime, and what the hardware loads when it takes a trap. -/
def Op.isOrderly : Op → Bool
  | .setup .. | .start | .install .. => true
  | .enableIrq _ | .disableIrq _ | .enableInterrupts | .disableInterrupts
  | .restoreInterrupts _ => true
  | .contextGet .. | .contextPut .. => true
  | .handleTrap _ | .trap .. | .raise .. => true
  | .poke csr _ => csr ≠ .interruptEnable
  | _ => false

/-- A step of a run: its operation is one of these, and a trap finds an empty slot or, with the
console available, the debug handler. -/
structure Moment.Orderly (now : Moment) : Prop where
  op : now.op.isOrderly = true
  slot : ∀ c, now.op.trapCause now.machine.hart = some c →
    now.machine.table.get (Cause.code ⟨c⟩) = none ∨
      (now.machine.table.get (Cause.code ⟨c⟩) = some .debug ∧
        now.machine.recorder.available = true)

/-- The interrupt enables of the current hart. -/
def Machine.enables (m : Machine) : Word := m.hart.csrs.interruptEnable

namespace Op

variable (op : Op) (m : Machine)

theorem entered_enables : (op.entered m).enables = m.enables := by cases op <;> rfl

theorem entered_available : (op.entered m).recorder.available = m.recorder.available := by
  cases op <;> rfl

theorem entered_cause {op : Op} {m : Machine} {c : Word} (trap : op.trapCause m.hart = some c) :
    (op.entered m).hart.csrs.cause = c := by
  cases op <;> cases trap <;> rfl

end Op

theorem Moment.enableEvent_trap {op : Op} {m : Machine} {c : Word} (k : Fin 32)
    (trap : op.trapCause m.hart = some c) :
    enableEvent k ⟨m, op⟩ =
      if m.table.get (Cause.code ⟨c⟩) = some .debug ∧ Cause.Disables ⟨c⟩ k then some false
      else none := by
  have event : enableEvent k ⟨m, op⟩ =
      match (if m.table.get (Cause.code ⟨c⟩) = some .debug then some (⟨c⟩ : Cause) else none) with
      | some c => if c.Disables k then some false else none
      | none => none := by
    cases op <;> cases trap <;> rfl
  rw [event]
  by_cases debug : m.table.get (Cause.code ⟨c⟩) = some .debug
  · simp only [debug, if_true, true_and]
  · simp only [debug, if_false, false_and]

namespace Dispatcher

variable (d : Dispatcher) (c : Code) (m : Machine) (k : Fin 32)

theorem enables_enableIrq :
    ((d.enableIrq c).outcome m).2.enables.getLsbD k.val =
      if c.isInterrupt = true ∧ k = c.index then true else m.enables.getLsbD k.val := by
  unfold enableIrq
  by_cases interrupt : c.isInterrupt = true
  · have set : (m.hart.csrs.setBits d.access .interruptEnable (Word.bit c.index)).interruptEnable =
        m.enables ||| Word.bit c.index := congrArg Csrs.interruptEnable (Csrs.setBits_eq ..)
    simp only [interrupt, if_true, true_and, ← Word.getLsbD_or_bit, ← set]
    rfl
  · simp only [interrupt, Bool.false_eq_true, if_false, false_and]
    rfl

theorem enables_disableIrq :
    ((d.disableIrq c).outcome m).2.enables.getLsbD k.val =
      if c.isInterrupt = true ∧ k = c.index then false else m.enables.getLsbD k.val := by
  unfold disableIrq
  by_cases interrupt : c.isInterrupt = true
  · have cleared :
        (m.hart.csrs.clearBits d.access .interruptEnable (Word.bit c.index)).interruptEnable =
          m.enables &&& ~~~Word.bit c.index := congrArg Csrs.interruptEnable (Csrs.clearBits_eq ..)
    simp only [interrupt, if_true, true_and, ← Word.getLsbD_and_not_bit, ← cleared]
    rfl
  · simp only [interrupt, Bool.false_eq_true, if_false, false_and]
    rfl

theorem enables_setup (entry : Nat) (default : Handler) :
    ((d.setup entry default).outcome m).2.enables = 0#32 := by
  rw [Act.outcome_of_ok (d.setup_apply entry default m)]
  rfl

end Dispatcher

namespace Scenario

variable (s : Scenario) (m : Machine) (k : Fin 32)

/-- A trap in an orderly step. -/
theorem enables_trap {op : Op} {c : Word} (trap : op.trapCause m.hart = some c)
    (orderly : Moment.Orderly ⟨m, op⟩) :
    ((s.perform s.behaviour op).outcome m).2.enables.getLsbD k.val =
      (Moment.enableEvent k ⟨m, op⟩).getD (m.enables.getLsbD k.val) := by
  have left := s.perform_trap_view Machine.enables s.behaviour (fun _ _ => rfl) trap
  have before := op.entered_enables m
  rw [left, Moment.enableEvent_trap k trap]
  rcases orderly.slot c trap with empty | ⟨debug, available⟩
  · rw [empty, if_neg (by simp)]
    exact congrArg (·.getLsbD k.val) before
  · have entered : (op.entered m).recorder.available = true := (op.entered_available m).trans available
    have bit := (op.entered m).hart.getLsbD_reportedEnables k
    have reported : (s.native.debugHandler.outcome (op.entered m)).2.enables =
        (op.entered m).hart.reportedEnables := by
      rw [Dispatcher.debugHandler_outcome _ entered, Dispatcher.reported_eq]
      rfl
    rw [Op.entered_cause trap] at bit
    rw [debug, Dispatcher.call, show s.behaviour .debug = s.native.debugHandler from rfl, reported, bit]
    by_cases disables : Cause.Disables ⟨c⟩ k
    · simp [disables]
    · simp only [disables, if_false, and_false, Option.getD_none]
      exact congrArg (·.getLsbD k.val) before

/-- An operation on one enable reaches the source whose interrupt code it names, and no other. -/
theorem encodes_interrupt_iff {code : Word} {c : Code} (decoded : Code.ofBits code = .ok c) :
    code = Code.bits ⟨.interrupt, k⟩ ↔ c.isInterrupt = true ∧ k = c.index := by
  rw [Code.ofBits_eq_ok_iff.mp decoded]
  obtain ⟨direction, index⟩ := c
  constructor
  · intro same
    cases Code.bits_injective same
    exact ⟨rfl, rfl⟩
  · rintro ⟨interrupt, rfl⟩
    cases of_decide_eq_true interrupt
    rfl

/-- An operation on the source of a code word, which does nothing if the word encodes no code. -/
theorem enables_withCode {act : Code → Act Unit} {value : Bool}
    (acts : ∀ c, ((act c).outcome m).2.enables.getLsbD k.val =
      if c.isInterrupt = true ∧ k = c.index then value else m.enables.getLsbD k.val)
    (code : Word) :
    ((withCode code fun c => act c >>= fun _ => pure .nothing).outcome m).2.enables.getLsbD k.val =
      if code = Code.bits ⟨.interrupt, k⟩ then value else m.enables.getLsbD k.val := by
  unfold withCode
  cases decoded : Code.ofBits code with
  | error e =>
      have invalid : code ≠ Code.bits ⟨.interrupt, k⟩ := by
        rintro rfl
        rw [Code.ofBits_bits] at decoded
        cases decoded
      rw [if_neg invalid]
      rfl
  | ok c => simp only [Act.outcome_bind_pure, acts, encodes_interrupt_iff k decoded]

theorem enables_start : (s.start.outcome m).2.enables = 0#32 := by
  rw [Act.outcome_of_ok (s.start_apply m)]
  exact congrArg (·.csrs.interruptEnable) (Machine.print_hart ..)

/-- **One operation and one enable.** -/
theorem enables_perform (op : Op) (orderly : Moment.Orderly ⟨m, op⟩) :
    ((s.perform s.behaviour op).outcome m).2.enables.getLsbD k.val =
      (Moment.enableEvent k ⟨m, op⟩).getD (m.enables.getLsbD k.val) := by
  have bit : ∀ {x : Act Reply}, x.Keeps Machine.enables →
      (x.outcome m).2.enables.getLsbD k.val = m.enables.getLsbD k.val :=
    fun keeps => congrArg (·.getLsbD k.val) (keeps m)
  cases op
  case handleTrap | trap => exact s.enables_trap m k rfl orderly
  case setup entry handler =>
    change (((s.dispatcher .readModifyWrite).setup entry handler >>= fun _ => pure _).outcome
      m).2.enables.getLsbD k.val = false
    rw [Act.outcome_bind_pure, Dispatcher.enables_setup, BitVec.getLsbD_zero]
  case start =>
    change ((s.start >>= fun _ => pure _).outcome m).2.enables.getLsbD k.val = false
    rw [Act.outcome_bind_pure, enables_start, BitVec.getLsbD_zero]
  case enableIrq code =>
    refine (enables_withCode m k (fun c => s.native.enables_enableIrq c m k) code).trans ?_
    change _ = Option.getD (if _ then some true else none) _
    split <;> rfl
  case disableIrq code =>
    refine (enables_withCode m k (fun c => s.native.enables_disableIrq c m k) code).trans ?_
    change _ = Option.getD (if _ then some false else none) _
    split <;> rfl
  case enableInterrupts | disableInterrupts | raise => rfl
  case restoreInterrupts =>
    exact bit (.bind (.ite (fun _ => rfl) (.pure _)) fun _ => .pure _)
  case install code slot =>
    exact bit (.bind (fun m => by rw [Act.outcome_of_ok (Act.install_apply code slot m)]; rfl)
      fun
      | .ok () => .pure _
      | .error _ => .pure _)
  case contextGet => exact bit (.bind (Dispatcher.contextGet_keeps _ _) fun _ => .pure _)
  case contextPut =>
    exact bit (.bind (Dispatcher.contextPut_keeps _ _ _ fun _ _ => rfl) fun _ => .pure _)
  case poke csr value =>
    have other : csr ≠ .interruptEnable := of_decide_eq_true orderly.op
    have kept := Csrs.get_set m.hart.csrs csr .interruptEnable value
    rw [if_neg other.symm] at kept
    exact congrArg (·.getLsbD k.val) kept
  all_goals cases orderly.op

end Scenario

/-! ### Runs -/

namespace Moment

/-- An interrupt of the source is delivered only while the source is enabled. -/
def Gated (k : Fin 32) (now : Moment) : Prop :=
  ∀ c, now.op.trapCause now.machine.hart = some c → Cause.Interrupts ⟨c⟩ k →
    now.machine.enables.getLsbD k.val = true

/-- The operation takes an interrupt of the source to the debug handler. -/
def reports (k : Fin 32) (now : Moment) : Bool := now.reportedCause.any fun c => c.Interrupts k

/-- What it means that an interrupt of the source is reported. -/
theorem reports_iff {k : Fin 32} {now : Moment} :
    now.reports k = true ↔ ∃ c, now.op.trapCause now.machine.hart = some c ∧
      now.machine.table.get (Cause.code ⟨c⟩) = some .debug ∧ Cause.Interrupts ⟨c⟩ k := by
  unfold reports reportedCause
  cases trap : now.op.trapCause now.machine.hart with
  | none => simp
  | some c =>
      by_cases debug : now.machine.table.get (Cause.code ⟨c⟩) = some .debug
      · simp [debug]
      · simp [debug]

/-- A report takes the enable away. -/
theorem enableEvent_of_reports {k : Fin 32} {now : Moment} (reports : now.reports k = true) :
    now.enableEvent k = some false := by
  obtain ⟨c, trap, debug, interrupts⟩ := reports_iff.mp reports
  exact (enableEvent_trap k trap).trans (if_pos ⟨debug, .inr interrupts⟩)

/-- The one event that sets an enable. -/
theorem op_of_enableEvent {k : Fin 32} {now : Moment} (event : now.enableEvent k = some true) :
    now.op = .enableIrq (Code.bits ⟨.interrupt, k⟩) := by
  obtain ⟨m, op⟩ := now
  unfold enableEvent at event
  split at event
  · rename_i code named
    split at event
    · rename_i same
      rw [← same]
      exact named
    · cases event
  · split at event <;> cases event
  · cases event
  · cases event
  · split at event
    · split at event <;> cases event
    · cases event

end Moment

namespace Board

variable {n : Nat} (s : Scenario) (i : Fin n) (k : Fin 32)

/-- The operations of one hart in a run, with the machines that they find. -/
def turns (b : Board n) : List (Fin n × Op) → List Moment
  | [] => []
  | (h, op) :: steps =>
    (if h = i then [⟨b.machine i, op⟩] else []) ++ (b.step s h op).1.turns steps

/-- Whether an interrupt source is enabled on a hart. -/
def enable (b : Board n) : Bool := (b.hart i).csrs.interruptEnable.getLsbD k.val

theorem turns_append (b : Board n) (past later : List (Fin n × Op)) :
    b.turns s i (past ++ later) = b.turns s i past ++ (b.run s past).1.turns s i later := by
  induction past generalizing b with
  | nil => rfl
  | cons step past ih =>
      obtain ⟨h, op⟩ := step
      simp only [List.cons_append, turns, ih, List.append_assoc]
      rfl

variable {s i}

/-- A step of the hart itself. -/
theorem enable_step_self {b : Board n} {op : Op} (orderly : Moment.Orderly ⟨b.machine i, op⟩) :
    (b.step s i op).1.enable i k =
      (Moment.enableEvent k ⟨b.machine i, op⟩).getD (b.enable i k) := by
  have performed := s.enables_perform (b.machine i) k op orderly
  have own : (b.step s i op).1.hart i = ((s.perform s.behaviour op).outcome (b.machine i)).2.hart :=
    update_hart_self ..
  unfold enable
  rw [own]
  exact performed

/-- A step of another hart. -/
theorem enable_step_other {b : Board n} {h : Fin n} (other : h ≠ i) (op : Op) :
    (b.step s h op).1.enable i k = b.enable i k := by
  unfold enable
  rw [step_hart_ne s b other.symm op]

/-- **A run and one enable**: the bit is what the last of the events made it. -/
theorem enable_run (b : Board n) (steps : List (Fin n × Op))
    (orderly : ∀ now ∈ b.turns s i steps, now.Orderly) :
    (b.run s steps).1.enable i k =
      ((b.turns s i steps).reverse.findSome? (Moment.enableEvent k)).getD (b.enable i k) := by
  rw [← foldl_getD]
  induction steps generalizing b with
  | nil => rfl
  | cons step steps ih =>
      obtain ⟨h, op⟩ := step
      have later : ∀ now ∈ (b.step s h op).1.turns s i steps, now.Orderly :=
        fun now mem => orderly now (List.mem_append_right _ mem)
      rw [turns, List.foldl_append, run]
      refine (ih _ later).trans ?_
      by_cases own : h = i
      · subst own
        have first : Moment.Orderly ⟨b.machine h, op⟩ := by
          apply orderly
          simp [turns]
        rw [enable_step_self k first, if_pos rfl]
        rfl
      · rw [enable_step_other k own, if_neg own]
        rfl

/-- An interrupt that is delivered only while it is enabled is reported at most once before it is
enabled again, and not at all if it is disabled to begin with. -/
theorem reports_le_enable (b : Board n) (steps : List (Fin n × Op))
    (orderly : ∀ now ∈ b.turns s i steps, now.Orderly)
    (gated : ∀ now ∈ b.turns s i steps, now.Gated k)
    (unaided : (i, .enableIrq (Code.bits ⟨.interrupt, k⟩)) ∉ steps) :
    (b.turns s i steps).countP (Moment.reports k) ≤ (b.enable i k).toNat := by
  induction steps generalizing b with
  | nil => exact Nat.zero_le _
  | cons step steps ih =>
      obtain ⟨h, op⟩ := step
      have later := ih (b.step s h op).1
        (fun now mem => orderly now (List.mem_append_right _ mem))
        (fun now mem => gated now (List.mem_append_right _ mem))
        (fun mem => unaided (List.mem_cons_of_mem _ mem))
      rw [turns, List.countP_append]
      by_cases own : h = i
      · subst own
        have here : (⟨b.machine h, op⟩ : Moment) ∈ b.turns s h ((h, op) :: steps) := by
          simp [turns]
        have bit := enable_step_self (s := s) k (orderly _ here)
        rw [if_pos rfl, List.countP_singleton]
        by_cases reports : Moment.reports k ⟨b.machine h, op⟩ = true
        · -- The report takes the enable away, so there is none later.
          obtain ⟨c, trap, -, interrupts⟩ := Moment.reports_iff.mp reports
          have gate : Moment.Gated k ⟨b.machine h, op⟩ := gated _ here
          have enabled : b.enable h k = true := gate c trap interrupts
          rw [Moment.enableEvent_of_reports reports, Option.getD_some] at bit
          rw [bit] at later
          rw [if_pos reports, enabled]
          exact Nat.add_le_add_left later 1
        · rw [if_neg reports, Nat.zero_add]
          refine Nat.le_trans later ?_
          rw [bit]
          cases event : Moment.enableEvent k ⟨b.machine h, op⟩ with
          | none => exact Nat.le_refl _
          | some value =>
              cases value with
              | false => exact Nat.zero_le _
              | true =>
                  have enables : op = _ := Moment.op_of_enableEvent event
                  rw [enables] at unaided
                  exact absurd List.mem_cons_self unaided
      · rw [if_neg own, List.countP_nil, Nat.zero_add, ← enable_step_other k own op]
        exact later

/-- **The interrupt enables have owners, and no interrupt storms.** Take any run on a board in which
the steps of hart `i` are operations of the runtime whose traps find an empty slot or, with the
console available, the debug handler; the other harts may do anything. Then at every point the enable
of a source on hart `i` is on exactly if the last event that bears on it was an `enableIrq` of the
interrupt, or there was none and it was on at the start. Between two such `enableIrq` an interrupt
that is delivered only while enabled reaches the debug handler at most once. -/
theorem enables_have_owners (s : Scenario) (b : Board n) (i : Fin n) (k : Fin 32)
    (steps : List (Fin n × Op)) (orderly : ∀ now ∈ b.turns s i steps, now.Orderly) :
    (∀ past later : List (Fin n × Op), steps = past ++ later →
      let latest := (b.turns s i past).reverse.findSome? (Moment.enableEvent k)
      (((b.run s past).1.hart i).csrs.interruptEnable.getLsbD k.val = true ↔
        latest = some true ∨
          (latest = none ∧ (b.hart i).csrs.interruptEnable.getLsbD k.val = true))) ∧
    ((∀ now ∈ b.turns s i steps, now.Gated k) →
      ∀ past between later : List (Fin n × Op), steps = past ++ between ++ later →
        (i, .enableIrq (Code.bits ⟨.interrupt, k⟩)) ∉ between →
          ((b.run s past).1.turns s i between).countP (Moment.reports k) ≤ 1) := by
  constructor
  · rintro past later rfl latest
    have orderly : ∀ now ∈ b.turns s i past, now.Orderly := by
      intro now mem
      apply orderly
      rw [turns_append]
      exact List.mem_append_left _ mem
    have bit : (b.run s past).1.enable i k = latest.getD (b.enable i k) := enable_run k b past orderly
    change (b.run s past).1.enable i k = true ↔ latest = some true ∨ latest = none ∧ b.enable i k = true
    rw [bit]
    cases latest with
    | none => simp
    | some value => simp
  · rintro gated past between later rfl unaided
    have inside : ∀ now ∈ (b.run s past).1.turns s i between,
        now ∈ b.turns s i (past ++ between ++ later) := by
      intro now mem
      rw [turns_append, turns_append]
      exact List.mem_append_left _ (List.mem_append_right _ mem)
    have bound := reports_le_enable k (b.run s past).1 between
      (fun now mem => orderly now (inside now mem)) (fun now mem => gated now (inside now mem))
      unaided
    exact Nat.le_trans bound (Bool.toNat_le _)

/-! A hart that enables its timer interrupt, gets it once, and enables it again. -/

def timerScenario : Scenario := ⟨Config.default, 0x80000000, fun _ => []⟩

def timerBoard : Board 1 := ⟨#v[Hart.initial 0#32], .empty, true⟩

def timerTrap : Op := .trap ⟨Code.machineTimer.bits, 0x100#32, 0#32, 0#32⟩ Frame.zero

def timerSteps : List (Fin 1 × Op) :=
  [(0, .start), (0, .enableIrq Code.machineTimer.bits), (0, timerTrap),
    (0, .enableIrq Code.machineTimer.bits)]

theorem enables_have_owners_timer :
    (∀ now ∈ timerBoard.turns timerScenario 0 timerSteps, now.Orderly) ∧
      (∀ now ∈ timerBoard.turns timerScenario 0 timerSteps, now.Gated 7) ∧
      ((timerBoard.run timerScenario (timerSteps.take 2)).1.hart 0).csrs.interruptEnable.getLsbD 7 =
        true ∧
      ¬ ((timerBoard.run timerScenario
        (timerSteps.take 3)).1.hart 0).csrs.interruptEnable.getLsbD 7 = true ∧
      ((timerBoard.run timerScenario (timerSteps.take 2)).1.turns timerScenario 0
        [(0, timerTrap)]).countP (Moment.reports 7) ≤ 1 := by
  have orderly : ∀ now ∈ timerBoard.turns timerScenario 0 timerSteps, now.Orderly := by
    refine List.forall_mem_cons.mpr ⟨⟨rfl, nofun⟩, List.forall_mem_cons.mpr ⟨⟨rfl, nofun⟩,
      List.forall_mem_cons.mpr ⟨⟨rfl, ?_⟩, List.forall_mem_cons.mpr ⟨⟨rfl, nofun⟩,
        List.forall_mem_nil _⟩⟩⟩⟩
    rintro c ⟨⟩
    exact .inr ⟨rfl, rfl⟩
  have gated : ∀ now ∈ timerBoard.turns timerScenario 0 timerSteps, now.Gated 7 := by
    refine List.forall_mem_cons.mpr ⟨nofun, List.forall_mem_cons.mpr ⟨nofun,
      List.forall_mem_cons.mpr ⟨?_, List.forall_mem_cons.mpr ⟨nofun, List.forall_mem_nil _⟩⟩⟩⟩
    rintro c ⟨⟩ -
    rfl
  have owners := enables_have_owners timerScenario timerBoard 0 7 timerSteps orderly
  refine ⟨orderly, gated, ?_, ?_, ?_⟩
  · exact (owners.1 (timerSteps.take 2) (timerSteps.drop 2) rfl).mpr (.inl rfl)
  · intro on
    obtain enabled | ⟨untouched, -⟩ := (owners.1 (timerSteps.take 3) (timerSteps.drop 3) rfl).mp on
    · cases enabled
    · cases untouched
  · exact owners.2 gated (timerSteps.take 2) [(0, timerTrap)] (timerSteps.drop 3) rfl
      (by simp [timerTrap])

end Board

end TrapDispatch
