import TrapDispatch.Proofs.Reporting
import TrapDispatch.Proofs.SavedRegisters

/-!
A whole trap and the registers of the program that it interrupts.

* `saved_enter`: on entry the registers lie in their frame, with the scratch register at its base.
* `takeTrap_of_call`: the registers that the program goes on with are those in the frame when the
  handler returns; the dispatch itself touches none.
* `trap_preserves_registers`: with an empty slot or the debug handler they are the registers before
  the trap, at any stack pointer. A handler of accesses to the saved registers leaves what its
  accesses leave on the bare registers, and reads what they read there.
-/

namespace TrapDispatch

namespace Frame

@[simp] theorem hardwireZero_hardwireZero (x : Frame) :
    x.hardwireZero.hardwireZero = x.hardwireZero := by
  apply Vector.ext
  intro i hi
  simp only [hardwireZero, Vector.getElem_set]
  split <;> rfl

end Frame

namespace Dispatcher

/-! ### Entry -/

/-- The frame goes below the stack pointer that the program had; `x0` has no say in that. -/
@[simp] theorem frameBase_hardwireZero (x : Frame) : frameBase x.hardwireZero = frameBase x := by
  unfold frameBase Frame.hardwireZero
  rw [Vector.getElem_set_ne _ _ (by decide)]

variable (event : TrapEvent) (x : Frame) (h : Hart)

@[simp] theorem cause_enter : (enter event x h).csrs.cause = event.cause := rfl

theorem scratch_enter : (enter event x h).csrs.scratch.toNat = frameBase x := by
  change (BitVec.ofNat 32 (frameBase x)).toNat = frameBase x
  exact (BitVec.toNat_ofNat _ _).trans (Nat.mod_eq_of_lt (BitVec.isLt _))

/-- On entry the frame holds the registers, wherever the stack pointer is. -/
theorem frame_enter : (enter event x h).memory.frame (frameBase x) = x :=
  Memory.frame_writeFrame _ _ _

/-- With an aligned stack pointer the frame is one that handlers can access. -/
theorem saved_enter (aligned : (x.get ⟨Frame.stackPointer, by decide⟩).toNat % 4 = 0)
    (m : Machine) : Saved (frameBase x) x { m with hart := enter event x m.hart } where
  scratch := scratch_enter event x m.hart
  aligned := by
    have size : (BitVec.ofNat 32 Frame.size).toNat = 128 := by decide
    change x[2].toNat % 4 = 0 at aligned
    unfold frameBase
    rw [BitVec.toNat_sub, size]
    omega
  frame := frame_enter event x m.hart

/-! ### The trap around the handler -/

variable {event x}

theorem takeTrap_apply (d : Dispatcher) (behaviour : Behaviour) (m : Machine) :
    d.takeTrap behaviour event x m =
      match d.handleTrap behaviour { m with hart := enter event x.hardwireZero m.hart } with
      | .ok () s => .ok (s.hart.memory.frame (frameBase x)).hardwireZero s
      | .error stop s => .error stop s := by
  unfold takeTrap
  simp only [frameBase_hardwireZero]
  rw [Act.bind_apply, Act.modifyHart_apply]
  simp only [Act.bind_apply]
  cases d.handleTrap behaviour { m with hart := enter event x.hardwireZero m.hart } <;> rfl

/-- A trap whose handler returns goes on with the registers that the handler left in the frame, on
the machine that it left but for the move of the resume address. -/
theorem takeTrap_returns (d : Dispatcher) (behaviour : Behaviour) {m s : Machine}
    (called : call behaviour (m.table.get (Cause.code ⟨event.cause⟩))
      { m with hart := enter event x.hardwireZero m.hart } = .ok () s) :
    d.takeTrap behaviour event x m =
      .ok (s.hart.memory.frame (frameBase x)).hardwireZero (d.advanced ⟨event.cause⟩ s) := by
  rw [takeTrap_apply, handleTrap_apply]
  simp only [cause_enter, called, advance_apply, advanced_memory]

theorem takeTrap_of_call (d : Dispatcher) (behaviour : Behaviour) {m s : Machine}
    (called : call behaviour (m.table.get (Cause.code ⟨event.cause⟩))
      { m with hart := enter event x.hardwireZero m.hart } = .ok () s) :
    ∃ t, d.takeTrap behaviour event x m =
        .ok (s.hart.memory.frame (frameBase x)).hardwireZero t ∧ t.visits = s.visits :=
  ⟨_, d.takeTrap_returns behaviour called, advanced_visits ..⟩

/-- A trap whose handler stops stops with it. -/
theorem takeTrap_of_stop (d : Dispatcher) (behaviour : Behaviour) {m s : Machine} {stop : Stop}
    (called : call behaviour (m.table.get (Cause.code ⟨event.cause⟩))
      { m with hart := enter event x.hardwireZero m.hart } = .error stop s) :
    d.takeTrap behaviour event x m = .error stop s := by
  rw [takeTrap_apply, handleTrap_apply]
  simp only [cause_enter, called]

/-- Apart from the resume address, a trap leaves what the call of the slot leaves after the entry. -/
theorem takeTrap_view {γ : Type} (view : Machine → γ) (d : Dispatcher) (behaviour : Behaviour)
    (blind : ∀ (r : Word) (s : Machine),
      view { s with hart := { s.hart with csrs := { s.hart.csrs with resumeAddress := r } } } =
        view s) (m : Machine) :
    view ((d.takeTrap behaviour event x).outcome m).2 =
      view ((call behaviour (m.table.get (Cause.code ⟨event.cause⟩))).outcome
        { m with hart := enter event x.hardwireZero m.hart }).2 := by
  have dispatched := d.handleTrap_view view behaviour blind
    { m with hart := enter event x.hardwireZero m.hart }
  have equation : d.takeTrap behaviour event x m = _ := d.takeTrap_apply behaviour m
  refine Eq.trans ?_ dispatched
  cases handled : d.handleTrap behaviour { m with hart := enter event x.hardwireZero m.hart } with
  | error stop s =>
      rw [handled] at equation
      rw [Act.outcome_of_error equation, Act.outcome_of_error handled]
  | ok _ s =>
      rw [handled] at equation
      rw [Act.outcome_of_ok equation, Act.outcome_of_ok handled]

end Dispatcher

/-! ### Operations that dispatch a trap -/

namespace Op

/-- The cause of the trap that an operation dispatches on a hart, if it dispatches one. -/
def trapCause (h : Hart) : Op → Option Word
  | .handleTrap _ => some h.csrs.cause
  | .trap event _ => some event.cause
  | _ => none

/-- The machine on which an operation calls the slot of its trap. -/
def entered (m : Machine) : Op → Machine
  | .trap event x => { m with hart := Dispatcher.enter event x.hardwireZero m.hart }
  | _ => m

end Op

/-- Apart from the resume address, an operation that dispatches a trap leaves what the call of the
slot leaves. -/
theorem Scenario.perform_trap_view {γ : Type} (view : Machine → γ) (s : Scenario)
    (behaviour : Behaviour)
    (blind : ∀ (r : Word) (s : Machine),
      view { s with hart := { s.hart with csrs := { s.hart.csrs with resumeAddress := r } } } =
        view s) {op : Op} {m : Machine} {c : Word} (trap : op.trapCause m.hart = some c) :
    view ((s.perform behaviour op).outcome m).2 =
      view ((Dispatcher.call behaviour (m.table.get (Cause.code ⟨c⟩))).outcome (op.entered m)).2 := by
  cases op
  case handleTrap via =>
    cases trap
    change view (((s.dispatcher via).handleTrap behaviour >>= fun _ => pure _).outcome m).2 = _
    rw [Act.outcome_bind_pure]
    exact (s.dispatcher via).handleTrap_view view behaviour blind m
  case trap event x =>
    cases trap
    change view ((s.native.takeTrap behaviour event x >>= fun y => pure _).outcome m).2 = _
    rw [Act.outcome_bind_pure]
    exact s.native.takeTrap_view view behaviour blind m
  all_goals cases trap

namespace Scenario

open Dispatcher

variable {s : Scenario} {m : Machine} {event : TrapEvent} {x : Frame}

/-! ### Traps of a session -/

theorem perform_trap (behaviour : Behaviour) {t : Machine} {y : Frame}
    (taken : s.native.takeTrap behaviour event x m = .ok y t) :
    s.perform behaviour (.trap event x) m = .ok (.words y.toList) t :=
  Act.bind_of_ok taken _

/-- With an empty slot the program goes on with the registers that it had. -/
theorem trap_empty (empty : m.table.get (Cause.code ⟨event.cause⟩) = none) :
    ∃ t, s.perform s.behaviour (.trap event x) m = .ok (.words x.hardwireZero.toList) t := by
  obtain ⟨t, taken, -⟩ := takeTrap_of_call s.native s.behaviour (x := x)
    (s := { m with hart := enter event x.hardwireZero m.hart }) (by rw [empty]; rfl)
  refine ⟨t, perform_trap _ (taken.trans ?_)⟩
  rw [← frameBase_hardwireZero x, frame_enter, Frame.hardwireZero_hardwireZero]

/-- With the debug handler in the slot the trap halts for a fatal cause that is reported, and the
program goes on with the registers that it had in every other case. -/
theorem trap_debug (debug : m.table.get (Cause.code ⟨event.cause⟩) = some .debug) :
    if m.recorder.available = true ∧
        (event.cause = 0#32 ∨ event.cause = 1#32 ∨ event.cause = 16#32) then
      ∃ t, s.perform s.behaviour (.trap event x) m = .error .halted t
    else ∃ t, s.perform s.behaviour (.trap event x) m = .ok (.words x.hardwireZero.toList) t := by
  let entered : Machine := { m with hart := enter event x.hardwireZero m.hart }
  have handled : s.native.debugHandler entered =
      if m.recorder.available = true then
        if event.cause = 0#32 ∨ event.cause = 1#32 ∨ event.cause = 16#32 then
          .error .halted (s.native.reported .registered entered)
        else .ok () (s.native.reported .registered entered)
      else .ok () entered := by
    rw [s.native.debugHandler_apply]
    simp only [Cause.disposition_eq_fatal_iff]
    rfl
  -- A handler that returns has left the memory, and with it the frame, as it was on entry.
  have goes : ∀ left, s.native.debugHandler entered = .ok () left →
      left.hart.memory = entered.hart.memory →
      ∃ t, s.perform s.behaviour (.trap event x) m = .ok (.words x.hardwireZero.toList) t := by
    intro left returned memory
    obtain ⟨t, taken, -⟩ := takeTrap_of_call s.native s.behaviour (x := x)
      (s := left) (by rw [debug]; exact returned)
    refine ⟨t, perform_trap _ (taken.trans ?_)⟩
    rw [memory, ← frameBase_hardwireZero x, frame_enter, Frame.hardwireZero_hardwireZero]
  by_cases available : m.recorder.available = true
  · by_cases fatal : event.cause = 0#32 ∨ event.cause = 1#32 ∨ event.cause = 16#32
    · rw [if_pos ⟨available, fatal⟩]
      rw [if_pos available, if_pos fatal] at handled
      refine ⟨s.native.reported .registered entered, ?_⟩
      have stopped := takeTrap_of_stop s.native s.behaviour (by rw [debug]; exact handled)
      exact Act.bind_of_error stopped _
    · rw [if_neg fun both => fatal both.2]
      rw [if_pos available, if_neg fatal] at handled
      exact goes _ handled (policy_memory ..)
  · rw [if_neg fun both => available both.1]
    rw [if_neg available] at handled
    exact goes _ handled rfl

/-- A handler of accesses to the saved registers leaves and answers what its accesses do on the bare
registers. -/
theorem trap_accesses {number : Nat} {accesses : List FrameAccess}
    (installed : m.table.get (Cause.code ⟨event.cause⟩) = some (.script number))
    (script : s.scripts number = accesses.map FrameAccess.op)
    (width : s.config.frameRegisters = 16 ∨ s.config.frameRegisters = 32)
    (aligned : (x.get ⟨Frame.stackPointer, by decide⟩).toNat % 4 = 0) :
    ∃ t, s.perform s.behaviour (.trap event x) m =
        .ok (.words
          (accesses.foldl (FrameAccess.effect s.config.frameRegisters)
            x.hardwireZero).hardwireZero.toList) t ∧
      t.visits = m.visits ++
        [⟨number, FrameAccess.replies s.config.frameRegisters x.hardwireZero accesses⟩] := by
  have aligned₀ : x.hardwireZero[2].toNat % 4 = 0 := by
    unfold Frame.hardwireZero
    rw [Vector.getElem_set_ne _ _ (by decide)]
    exact aligned
  have saved := saved_enter event x.hardwireZero aligned₀ m
  obtain ⟨left, ran, kept, visits⟩ := performAll_accesses width
    (Handler.behaviour s.native (s.runScript s.nesting.depth)) m.visits number accesses []
    (m := { m with
      hart := enter event x.hardwireZero m.hart, visits := m.visits ++ [⟨number, []⟩] })
    ⟨saved.scratch, saved.aligned, saved.frame⟩ rfl
  rw [← script] at ran
  obtain ⟨t, taken, same⟩ := takeTrap_of_call s.native s.behaviour (x := x)
    (s := left) (by rw [installed]; exact ran)
  refine ⟨t, perform_trap _ (taken.trans ?_), same.trans visits⟩
  rw [← frameBase_hardwireZero x, kept.frame]

/-- **The registers of an interrupted program over a whole trap**, whatever the trap registers and
the machine were before. With an empty slot, or with the debug handler unless it halts, the program
goes on with the registers `x` that it had, at any stack pointer. With a handler that makes any
accesses to the saved registers, by numbers that count modulo the size of the frame, it goes on with
`x` as changed by the accesses in order, and every access reads the registers as they are at its
turn. Whatever was put there, `x0` reads zero. -/
theorem trap_preserves_registers (s : Scenario) (m : Machine) (event : TrapEvent) (x : Frame) :
    (m.table.get (Cause.code ⟨event.cause⟩) = none →
      ∃ t, s.perform s.behaviour (.trap event x) m = .ok (.words x.hardwireZero.toList) t) ∧
    (m.table.get (Cause.code ⟨event.cause⟩) = some .debug →
      if m.recorder.available = true ∧
          (event.cause = 0#32 ∨ event.cause = 1#32 ∨ event.cause = 16#32) then
        ∃ t, s.perform s.behaviour (.trap event x) m = .error .halted t
      else ∃ t, s.perform s.behaviour (.trap event x) m =
        .ok (.words x.hardwireZero.toList) t) ∧
    ∀ (number : Nat) (accesses : List FrameAccess),
      m.table.get (Cause.code ⟨event.cause⟩) = some (.script number) →
      s.scripts number = accesses.map FrameAccess.op →
      s.config.frameRegisters = 16 ∨ s.config.frameRegisters = 32 →
      (x.get ⟨Frame.stackPointer, by decide⟩).toNat % 4 = 0 →
      ∃ t, s.perform s.behaviour (.trap event x) m =
          .ok (.words (accesses.foldl (FrameAccess.effect s.config.frameRegisters)
            x.hardwireZero).hardwireZero.toList) t ∧
        t.visits = m.visits ++
          [⟨number, FrameAccess.replies s.config.frameRegisters x.hardwireZero accesses⟩] := by
  refine ⟨trap_empty, trap_debug, ?_⟩
  intro number accesses installed script width aligned
  exact trap_accesses installed script width aligned

/-! An environment call of a program whose stack pointer is 64, so that its frame crosses the end of
the address space. The handler counts registers modulo 16: it meets register 10 under the number 26
and reads back what it put into slot 0. -/

def lowStack : Frame := Frame.ofList [9#32, 1#32, 64#32]

def ecall : TrapEvent := ⟨Code.machineEnvCall.bits, 0x100#32, 0x73#32, 0#32⟩

def aliasing : List FrameAccess :=
  [.put .readModifyWrite 26#32 5#32, .get .bitInstructions 10#32, .put .bitInstructions 0#32 7#32,
    .get .readModifyWrite 16#32]

/-- A session in which every script makes these accesses. -/
def aliasingScenario : Scenario where
  config := { Config.default with frameRegisters := 16 }
  entry := 0
  scripts := fun _ => aliasing.map FrameAccess.op

/-- A machine with one slot filled, that of the environment call. -/
def ecallMachine (slot : Option Handler) : Machine :=
  .start (.initial 0#32) (VectorTable.empty.install .machineEnvCall slot) true

theorem trap_preserves_low_stack :
    (∃ t, aliasingScenario.perform aliasingScenario.behaviour (.trap ecall lowStack)
        (ecallMachine none) = .ok (.words lowStack.hardwireZero.toList) t) ∧
    (∃ t, aliasingScenario.perform aliasingScenario.behaviour (.trap ecall lowStack)
        (ecallMachine (some .debug)) = .ok (.words lowStack.hardwireZero.toList) t) ∧
    ∃ t, aliasingScenario.perform aliasingScenario.behaviour (.trap ecall lowStack)
          (ecallMachine (some (.script 3))) =
        .ok (.words ([0#32, 1#32, 64#32] ++ List.replicate 7 0#32 ++ [5#32] ++
          List.replicate 21 0#32)) t ∧
      t.visits = [⟨3, [.nothing, .word 5#32, .nothing, .word 7#32]⟩] := by
  refine ⟨?_, ?_, ?_⟩
  · exact (trap_preserves_registers aliasingScenario (ecallMachine none) ecall lowStack).1 rfl
  · have debug := (trap_preserves_registers aliasingScenario (ecallMachine (some .debug)) ecall
      lowStack).2.1 rfl
    rwa [if_neg (by decide)] at debug
  · exact (trap_preserves_registers aliasingScenario (ecallMachine (some (.script 3))) ecall
      lowStack).2.2 3 aliasing rfl rfl (.inl rfl) (by decide)

end Scenario

end TrapDispatch
