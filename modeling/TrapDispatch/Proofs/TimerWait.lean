import TrapDispatch.Proofs.SelfTestCases

/-!
The timer test: a deadline, a waiting loop, one interrupt.

* `Armed`: a timer interrupt is waited for. Its handler is installed, it is enabled globally
  and for its source, and none has come yet.
* `awaitHit_reaches`: the waiting loop ends with exactly one hit if the deadline comes within its
  turns, by induction over the turns; every turn that does not take the interrupt stays armed.
* `machineTimer_reaches`: the test passes. The status register is as before and the enable of the
  timer is off.
-/

namespace TrapDispatch

open Act

/-! ### Interrupt enables -/

namespace Dispatcher

variable (d : Dispatcher) {σ : Setting}

theorem interruptsEnabled_reaches :
    Reaches σ interruptsEnabled (σ.status &&& interruptFlag ≠ 0#32) σ := by
  rintro m rfl
  exact ⟨m, rfl, rfl⟩

theorem disableInterrupts_reaches :
    Reaches σ d.disableInterrupts (σ.status &&& interruptFlag ≠ 0#32)
      (σ.write .status (σ.status &&& ~~~interruptFlag)) :=
  .bind interruptsEnabled_reaches (.bind (.clearBits _ _ _) (.pure _))

theorem enableInterrupts_reaches :
    Reaches σ d.enableInterrupts (σ.status &&& interruptFlag ≠ 0#32)
      (σ.write .status (σ.status ||| interruptFlag)) :=
  .bind interruptsEnabled_reaches (.bind (.setBits _ _ _) (.pure _))

theorem enableIrq_reaches {c : Code} (interrupt : c.isInterrupt = true) :
    Reaches σ (d.enableIrq c) ()
      (σ.write .interruptEnable (σ.interruptEnable ||| Word.bit c.index)) := by
  unfold enableIrq
  rw [if_pos interrupt]
  exact .setBits _ _ _

theorem disableIrq_reaches {c : Code} (interrupt : c.isInterrupt = true) :
    Reaches σ (d.disableIrq c) ()
      (σ.write .interruptEnable (σ.interruptEnable &&& ~~~Word.bit c.index)) := by
  unfold disableIrq
  rw [if_pos interrupt]
  exact .clearBits _ _ _

theorem restoreInterrupts_reaches (was : Bool) :
    Reaches σ (d.restoreInterrupts was) ()
      (σ.write .status (if was then σ.status ||| interruptFlag else σ.status)) := by
  cases was with
  | false => exact .pure ()
  | true => exact .setBits _ _ _

end Dispatcher

/-! ### Waiting -/

namespace Setting

variable (σ : Setting) (elapsed : BitVec 64)

/-- The setting some time later. -/
def later : Setting := { σ with bench := { σ.bench with time := σ.bench.time + elapsed } }

/-- The setting after the handler of the timer. -/
def fired : Setting :=
  { σ with bench := { σ.bench with deadline := BitVec.allOnes 64, hits := σ.bench.hits + 1 } }

@[simp] theorem later_deadline : (σ.later elapsed).bench.deadline = σ.bench.deadline := rfl

/-- The setting with another count of probe calls and another timer. -/
def timed (hits : Nat) (time deadline : BitVec 64) : Setting :=
  { σ with bench := { σ.bench with hits, time, deadline } }

theorem fired_later : (σ.later elapsed).fired =
    σ.timed (σ.bench.hits + 1) (σ.bench.time + elapsed) (BitVec.allOnes 64) := rfl

theorem later_timed (hits : Nat) (time deadline : BitVec 64) :
    (σ.later elapsed).timed hits time deadline = σ.timed hits time deadline := rfl

end Setting

namespace SelfTest

open Dispatcher

variable {σ τ υ : Setting} {r : Rig}

/-- A timer interrupt is waited for. -/
structure Armed (σ : Setting) : Prop where
  handler : σ.table.get .machineTimer = some (.probe .onTimer)
  globally : σ.status &&& interruptFlag ≠ 0#32
  source : σ.interruptEnable &&& Word.bit Code.machineTimer.index ≠ 0#32
  fresh : σ.bench.hits = 0

/-- Time passes, and nothing else changes. -/
theorem Armed.later (armed : Armed σ) (elapsed : BitVec 64) : Armed (σ.later elapsed) :=
  ⟨armed.handler, armed.globally, armed.source, armed.fresh⟩

/-- While the timer is armed, its deadline alone decides. -/
theorem Armed.pending_iff (armed : Armed σ) {m : Machine} (start : m.setting = σ) :
    timerPending m = true ↔ σ.bench.deadline ≤ σ.bench.time := by
  subst start
  have globally : m.hart.read .status &&& interruptFlag ≠ 0#32 := armed.globally
  have source : m.hart.read .interruptEnable &&& Word.bit Code.machineTimer.index ≠ 0#32 :=
    armed.source
  unfold timerPending
  rw [decide_eq_true globally, decide_eq_true source, Bool.and_true, Bool.and_true,
    decide_eq_true_eq]
  rfl

theorem Armed.pending_later (armed : Armed σ) {elapsed : BitVec 64} {m : Machine}
    (start : m.setting = σ.later elapsed) :
    timerPending m = true ↔ σ.bench.deadline ≤ σ.bench.time + elapsed :=
  (armed.later elapsed).pending_iff start

/-- A turn before the deadline. -/
theorem spin_waits (armed : Armed σ) (early : ¬ σ.bench.deadline ≤ σ.bench.time + spinTime) :
    Reaches σ (spin r) () (σ.later spinTime) := by
  refine .bind (.modify (g := (·.later spinTime)) fun _ => rfl) (.get fun m start => ?_)
  rw [if_neg fun pending => early ((armed.pending_later start).mp pending)]
  exact .pure ()

theorem onTimer_reaches (d : Dispatcher) : Reaches σ (Probe.onTimer.run d) () σ.fired :=
  .modify (g := Setting.fired) fun _ => rfl

/-- A turn that reaches the deadline takes the interrupt. -/
theorem spin_fires (genuine : r.Genuine) (armed : Armed σ)
    (due : σ.bench.deadline ≤ σ.bench.time + spinTime) :
    Reaches σ (spin r) () (σ.later spinTime).fired := by
  refine .bind (.modify (g := (·.later spinTime)) fun _ => rfl) (.get fun m start => ?_)
  rw [if_pos ((armed.pending_later start).mpr due)]
  have selected : Cause.code ⟨timerInterrupt.cause⟩ = .machineTimer := Code.ofWord_bits _
  have handles := handles_probe genuine (armed.later spinTime).handler
    ((onTimer_reaches (σ := σ.later spinTime) r.dispatcher).handles timerInterrupt.cause)
  rw [← selected] at handles
  exact .trap handles fun _ => .pure ()

/-- Once a probe has been called, the waiting is over. -/
theorem awaitHit_done (hit : σ.bench.hits ≠ 0) (turns : Nat) :
    Reaches σ (awaitHit r turns) () σ := by
  cases turns with
  | zero => exact .pure ()
  | succ turns =>
      refine .bind .hits ?_
      rw [if_neg hit]
      exact .pure ()

/-- The loop goes on as long as no probe has been called. -/
theorem awaitHit_turn (armed : Armed σ) {turns : Nat} (turn : Reaches σ (spin r) () τ)
    (rest : Reaches τ (awaitHit r turns) () υ) : Reaches σ (awaitHit r (turns + 1)) () υ := by
  refine .bind .hits ?_
  rw [if_pos armed.fresh]
  exact .bind turn rest

/-- The turn that takes the interrupt is the last one. -/
theorem awaitHit_fires (genuine : r.Genuine) (armed : Armed σ)
    (due : σ.bench.deadline ≤ σ.bench.time + spinTime) (turns : Nat) :
    Reaches σ (awaitHit r (turns + 1)) ()
      (σ.timed 1 (σ.bench.time + spinTime) (BitVec.allOnes 64)) := by
  have hit : (σ.later spinTime).fired.bench.hits ≠ 0 := Nat.succ_ne_zero _
  have fires := awaitHit_turn armed (spin_fires genuine armed due) (awaitHit_done hit turns)
  rwa [Setting.fired_later, armed.fresh] at fires

/-- **The waiting loop.** If the deadline comes within its turns, and the counter does not wrap
before, it takes the interrupt once. -/
theorem awaitHit_reaches (genuine : r.Genuine) (turns : Nat) (armed : Armed σ)
    (due : σ.bench.deadline.toNat ≤ σ.bench.time.toNat + spinTime.toNat * (turns + 1))
    (range : σ.bench.time.toNat + spinTime.toNat * (turns + 1) < 2 ^ 64) :
    ∃ time, Reaches σ (awaitHit r (turns + 1)) () (σ.timed 1 time (BitVec.allOnes 64)) := by
  induction turns generalizing σ with
  | zero =>
      rw [Nat.zero_add, Nat.mul_one] at due range
      have reached : σ.bench.deadline ≤ σ.bench.time + spinTime := by
        rw [BitVec.le_def, BitVec.toNat_add_of_lt range]
        exact due
      exact ⟨_, awaitHit_fires genuine armed reached 0⟩
  | succ turns ih =>
      rw [Nat.mul_succ, Nat.add_comm (_ * _), ← Nat.add_assoc] at due range
      -- After a turn the deadline is as far away as before, with one turn less to reach it in.
      have passed : (σ.later spinTime).bench.time.toNat = σ.bench.time.toNat + spinTime.toNat :=
        BitVec.toNat_add_of_lt (Nat.lt_of_le_of_lt (Nat.le_add_right _ _) range)
      by_cases reached : σ.bench.deadline ≤ σ.bench.time + spinTime
      · exact ⟨_, awaitHit_fires genuine armed reached (turns + 1)⟩
      · obtain ⟨time, waited⟩ := ih (armed.later spinTime)
          (by rw [passed, Setting.later_deadline]; exact due) (by rw [passed]; exact range)
        rw [Setting.later_timed] at waited
        exact ⟨time, awaitHit_turn armed (spin_waits armed reached) waited⟩

/-! ### The test -/

/-- The setting as the timer test changes it. -/
def timing (σ : Setting) (status interruptEnable : Word) (hits : Nat)
    (time deadline : BitVec 64) : Setting :=
  ((σ.write .status status).write .interruptEnable interruptEnable).timed hits time deadline

/-- The timer is armed from the low word of the time, which is zero at the start of a run. -/
theorem armTimer_reaches (start : σ.bench.time = 0#64) :
    Reaches σ armTimer () (σ.timed σ.bench.hits 0#64 1000#64) := by
  rintro m rfl
  have time : m.bench.time = 0#64 := start
  have deadline : ((0#64).setWidth 32 + 1000#32).setWidth 64 = 1000#64 := rfl
  refine ⟨_, rfl, ?_⟩
  unfold Setting.timed Machine.setting
  simp only [time, deadline]

theorem disarmTimer_reaches :
    Reaches σ Act.disarmTimer () (σ.timed σ.bench.hits σ.bench.time (BitVec.allOnes 64)) := by
  rintro m rfl
  exact ⟨_, rfl, rfl⟩

/-- **The timer test** passes if it starts at time zero. -/
theorem machineTimer_reaches (genuine : r.Genuine) (start : σ.bench.time = 0#64) :
    ∃ time, Reaches σ (machineTimer r) .pass
      ((timing σ σ.status (σ.interruptEnable &&& ~~~Word.bit Code.machineTimer.index) 1 time
          (BitVec.allOnes 64)).install .machineTimer (some .debug)) := by
  let d := r.dispatcher
  let source := Word.bit Code.machineTimer.index
  let installed := σ.install .machineTimer (some (.probe .onTimer))
  -- The status while the test waits, and what it is after the flag has been put back.
  let waiting := σ.status &&& ~~~interruptFlag ||| interruptFlag
  let left := if decide (σ.status &&& interruptFlag ≠ 0#32) = true then
    waiting &&& ~~~interruptFlag ||| interruptFlag else waiting &&& ~~~interruptFlag
  have restored : left = σ.status := by
    simp only [left, waiting, interruptFlag, Word.or_bit_and_not_bit, Word.and_not_bit_and_not_bit]
    have read := decide_eq_true_iff.trans (Word.and_bit_ne_zero_iff σ.status ⟨3, by decide⟩)
    exact (if_congr read rfl rfl).trans (Word.restore_bit _ _)
  have off : (σ.interruptEnable ||| source) &&& ~~~source = σ.interruptEnable &&& ~~~source :=
    Word.or_bit_and_not_bit _ _
  let enabled := timing installed waiting (σ.interruptEnable ||| source) 0 0#64 1000#64
  have armed : Armed enabled := ⟨σ.get_install .machineTimer _, Word.or_bit_and_bit_ne_zero _ _,
    Word.or_bit_and_bit_ne_zero _ _, rfl⟩
  have due : (1000#64).toNat ≤ (0#64).toNat + spinTime.toNat * (9999999 + 1) := by decide
  have range : (0#64).toNat + spinTime.toNat * (9999999 + 1) < 2 ^ 64 := by decide
  have limit : spinLimit = 9999999 + 1 := rfl
  obtain ⟨time, waited⟩ := awaitHit_reaches genuine 9999999 armed due range
  rw [← limit] at waited
  refine ⟨time, withHandler_passes ?_⟩
  rw [← restored, ← off]
  exact .bind .clearHits <| .bind (armTimer_reaches start) <|
    .bind (disableInterrupts_reaches d) <| .bind (enableIrq_reaches d rfl) <|
    .bind (enableInterrupts_reaches d) <| .bind waited <|
    .bind (disableInterrupts_reaches d) <| .bind (disableIrq_reaches d rfl) <|
    .bind disarmTimer_reaches <| .bind (restoreInterrupts_reaches d _) <| .bind .hits <| .pure true

end SelfTest

end TrapDispatch
