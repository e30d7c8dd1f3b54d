import TrapDispatch.Proofs.CheckedSteps
import TrapDispatch.Proofs.CriticalSections
import TrapDispatch.Proofs.TableOperations
import TrapDispatch.Proofs.WholeTrap

/-!
Which operations of the runtime can run into a fault.

* `FaultsOnly`: a condition that holds of every fault that an action runs into and of the machine that
  it leaves then; it passes through sequences. An action of which no fault is possible `NeverFaults`.
* `Op.runtime_cases`: an operation of the runtime never faults, unless it is an access to a saved
  register or dispatches a trap.
* `perform_trap_error_iff`: a trap stops just as the handler that it calls.
* `handler_faults_unaligned`: handlers that use the runtime, however deep they trap into each other,
  fault only where an access finds the scratch register unaligned.
* `faults_only_at_unaligned_frames`: all of it, and that no check on the way fails.
-/

namespace TrapDispatch

/-! ### The faults of an action -/

namespace Act

variable {α β : Type}

/-- Every fault that the action runs into is one of these, and leaves such a machine. -/
def FaultsOnly (allowed : Fault → Machine → Prop) (x : Act α) : Prop :=
  ∀ (m : Machine) (f : Fault) (t : Machine), x m = .error (.fault f) t → allowed f t

/-- The action returns or halts the hart. -/
abbrev NeverFaults (x : Act α) : Prop := FaultsOnly (fun _ _ => False) x

namespace FaultsOnly

variable {allowed : Fault → Machine → Prop}

theorem of_never {x : Act α} (never : NeverFaults x) : FaultsOnly allowed x :=
  fun m f t faults => (never m f t faults).elim

theorem of_ok {x : Act α} (returns : ∀ m, ∃ a s, x m = .ok a s) : FaultsOnly allowed x := by
  intro m f t faults
  obtain ⟨a, s, returned⟩ := returns m
  rw [returned] at faults
  cases faults

theorem pure (a : α) : FaultsOnly allowed (Pure.pure a : Act α) := of_ok fun m => ⟨a, m, rfl⟩

theorem bind {x : Act α} {f : α → Act β} (hx : FaultsOnly allowed x)
    (hf : ∀ a, FaultsOnly allowed (f a)) : FaultsOnly allowed (x >>= f) := by
  intro m f' t faults
  cases ran : x m with
  | ok a s =>
      rw [bind_of_ok ran] at faults
      exact hf a s f' t faults
  | error e s =>
      rw [bind_of_error ran] at faults
      cases faults
      exact hx m f' t ran

theorem modify (f : Machine → Machine) : FaultsOnly allowed (modify f : Act Unit) :=
  of_ok fun m => ⟨(), f m, rfl⟩

theorem get : FaultsOnly allowed (MonadState.get : Act Machine) := of_ok fun m => ⟨m, m, rfl⟩

theorem ite {c : Prop} [Decidable c] {x y : Act α} (hx : FaultsOnly allowed x)
    (hy : FaultsOnly allowed y) : FaultsOnly allowed (if c then x else y) := by
  split
  · exact hx
  · exact hy

end FaultsOnly

end Act

open Act

namespace Dispatcher

variable (d : Dispatcher)

theorem debugReport_neverFaults (console : Option Console) : (d.debugReport console).NeverFaults := by
  intro m f t faults
  cases console with
  | none => cases faults
  | some c =>
      rw [debugReport_apply] at faults
      split at faults
      · split at faults <;> cases faults
      · cases faults

theorem debugHandler_neverFaults : d.debugHandler.NeverFaults :=
  .bind .get fun _ => d.debugReport_neverFaults _

end Dispatcher

/-! ### Operations of the runtime -/

/-- The operations of the runtime, and a whole trap around its dispatch. -/
def Op.isRuntime : Op → Bool
  | .setup .. | .start | .install .. | .handler _ => true
  | .handleTrap _ | .trap .. | .trappedInstruction _ => true
  | .contextGet .. | .contextPut .. => true
  | .report .. | .debugHandler | .config | .entryAddress => true
  | .enableIrq _ | .disableIrq _ | .enableInterrupts | .disableInterrupts
  | .restoreInterrupts _ => true
  | .tableInstall .. | .tableGet _ | .tableFill _ => true
  | _ => false

namespace Scenario

theorem withCode_neverFaults {act : Code → Act Reply} (h : ∀ c, (act c).NeverFaults) (w : Word) :
    (withCode w act).NeverFaults := by
  unfold withCode
  split
  · exact h _
  · exact .pure _

theorem report_neverFaults (d : Dispatcher) (console : Option Console) (wanted : List String) :
    (report d console wanted).NeverFaults :=
  .ite
    (.bind (.modify _) fun _ => .bind (d.debugReport_neverFaults _) fun _ =>
      .bind .get fun _ => .pure _)
    (.bind (d.debugReport_neverFaults _) fun _ => .pure _)

end Scenario

/-- An operation of the runtime accesses a saved register, dispatches a trap, or never faults. -/
theorem Op.runtime_cases {op : Op} (runtime : op.isRuntime = true) :
    (∃ a : FrameAccess, op = a.op) ∨ (∀ h, ∃ c, op.trapCause h = some c) ∨
      ∀ (s : Scenario) (behaviour : Behaviour), (s.perform behaviour op).NeverFaults := by
  cases op
  case contextGet via register => exact .inl ⟨.get via register, rfl⟩
  case contextPut via register value => exact .inl ⟨.put via register value, rfl⟩
  case handleTrap via => exact .inr (.inl fun h => ⟨h.csrs.cause, rfl⟩)
  case trap event x => exact .inr (.inl fun _ => ⟨event.cause, rfl⟩)
  all_goals refine .inr (.inr fun s behaviour => ?_)
  case setup entry handler =>
    exact .bind (.of_ok fun m => ⟨_, _, Dispatcher.setup_apply _ entry handler m⟩) fun _ => .pure _
  case start => exact .bind (.of_ok fun m => ⟨_, _, s.start_apply m⟩) fun _ => .pure _
  case install code slot =>
    exact .bind (.of_ok fun m => ⟨_, _, install_apply code slot m⟩) fun
      | .ok () => .pure _
      | .error _ => .pure _
  case handler => exact Scenario.withCode_neverFaults (fun c => .of_ok fun m => ⟨_, m, rfl⟩) _
  case trappedInstruction resume =>
    exact .bind (.of_ok fun m => ⟨_, _, Dispatcher.trappedInstruction_apply _ resume m⟩)
      fun _ => .pure _
  case report => exact Scenario.report_neverFaults _ _ _
  case debugHandler => exact .bind (Dispatcher.debugHandler_neverFaults _) fun _ => .pure _
  case config | entryAddress => exact .pure _
  case enableIrq | disableIrq =>
    exact Scenario.withCode_neverFaults
      (fun _ => .bind (.ite (.modify _) (.pure _)) fun _ => .pure _) _
  case enableInterrupts =>
    exact .bind (.of_ok fun m => ⟨_, _, s.native.enableInterrupts_apply m⟩) fun _ => .pure _
  case disableInterrupts =>
    exact .bind (.of_ok fun m => ⟨_, _, s.native.disableInterrupts_apply m⟩) fun _ => .pure _
  case restoreInterrupts was =>
    exact .bind (.of_ok fun m => ⟨_, _, s.native.restoreInterrupts_apply m was⟩) fun _ => .pure _
  case tableInstall =>
    exact Scenario.withCode_neverFaults (fun _ => .bind (.modify _) fun _ => .pure _) _
  case tableGet => exact Scenario.withCode_neverFaults (fun _ => .bind .get fun _ => .pure _) _
  case tableFill => exact .bind (.modify _) fun _ => .pure _
  all_goals cases runtime

/-! ### Traps -/

namespace Dispatcher

/-- Calling a slot stops just as the handler that it holds. -/
theorem call_error_iff {behaviour : Behaviour} {slot : Option Handler} {m t : Machine} {e : Stop} :
    call behaviour slot m = .error e t ↔ ∃ h, slot = some h ∧ behaviour h m = .error e t := by
  cases slot with
  | none => exact ⟨nofun, nofun⟩
  | some h =>
      constructor
      · exact fun stopped => ⟨h, rfl, stopped⟩
      · rintro ⟨_, same, stopped⟩
        cases same
        exact stopped

theorem handleTrap_error_iff (d : Dispatcher) (behaviour : Behaviour) (m t : Machine) (e : Stop) :
    d.handleTrap behaviour m = .error e t ↔
      call behaviour (m.table.get (Cause.code ⟨m.hart.csrs.cause⟩)) m = .error e t := by
  rw [handleTrap_apply]
  cases call behaviour (m.table.get (Cause.code ⟨m.hart.csrs.cause⟩)) m with
  | ok _ s => simp only [advance_apply, reduceCtorEq]
  | error e' s => rfl

/-- The move of the resume address is the addition of a width to it, modulo 2³². -/
theorem advance_wraps (d : Dispatcher) (cause : Cause) (m : Machine) :
    ∃ t, d.advance cause m = .ok () t ∧ t.hart.csrs.resumeAddress.toNat =
      if cause.resumesInPlace = true then m.hart.csrs.resumeAddress.toNat
      else (m.hart.csrs.resumeAddress.toNat + (d.stride m.hart).toNat) % 2 ^ 32 := by
  refine ⟨_, d.advance_apply cause m, ?_⟩
  unfold advanced
  split
  · rfl
  · exact BitVec.toNat_add _ _

end Dispatcher

namespace Scenario

variable (s : Scenario)

/-- **A trap stops just as the handler that it calls**: the move of the resume address never does. -/
theorem perform_trap_error_iff {behaviour : Behaviour} {op : Op} {m t : Machine} {c : Word} {e : Stop}
    (trap : op.trapCause m.hart = some c) :
    s.perform behaviour op m = .error e t ↔
      ∃ h, m.table.get (Cause.code ⟨c⟩) = some h ∧ behaviour h (op.entered m) = .error e t := by
  rw [← Dispatcher.call_error_iff]
  cases op
  case handleTrap via =>
    cases trap
    refine Iff.trans ?_ ((s.dispatcher via).handleTrap_error_iff behaviour m t e)
    change ((s.dispatcher via).handleTrap behaviour >>= fun _ => pure _) m = _ ↔ _
    rw [bind_apply]
    cases (s.dispatcher via).handleTrap behaviour m <;> simp [pure_apply]
  case trap event x =>
    cases trap
    refine Iff.trans ?_ (s.native.handleTrap_error_iff behaviour
      { m with hart := Dispatcher.enter event x.hardwireZero m.hart } t e)
    change (s.native.takeTrap behaviour event x >>= fun y => pure _) m = _ ↔ _
    rw [bind_apply, Dispatcher.takeTrap_apply]
    cases s.native.handleTrap behaviour
      { m with hart := Dispatcher.enter event x.hardwireZero m.hart } <;> simp [pure_apply]
  all_goals cases trap

/-- With an empty slot or the debug handler no trap faults. -/
theorem perform_trap_ne_fault {op : Op} {m : Machine} {c : Word}
    (trap : op.trapCause m.hart = some c)
    (default : m.table.get (Cause.code ⟨c⟩) = none ∨ m.table.get (Cause.code ⟨c⟩) = some .debug)
    (f : Fault) (t : Machine) : s.perform s.behaviour op m ≠ .error (.fault f) t := by
  rw [ne_eq, s.perform_trap_error_iff trap]
  rintro ⟨h, found, faults⟩
  rcases default with empty | debug
  · rw [empty] at found
    cases found
  · rw [debug] at found
    cases found
    exact s.native.debugHandler_neverFaults _ f t faults

/-! ### Accesses to saved registers -/

/-- An access to a saved register faults just if the scratch register is unaligned, and changes nothing
then. -/
theorem perform_access_fault_iff (behaviour : Behaviour) (a : FrameAccess) {m t : Machine} {f : Fault} :
    s.perform behaviour a.op m = .error (.fault f) t ↔
      m.hart.csrs.scratch.toNat % 4 ≠ 0 ∧ t = m ∧ f = a.refusal (m.hart.csrs.scratch.toNat +
        Frame.slotOffset a.register s.config.frameRegisters) := by
  rw [perform_access_eq]
  by_cases aligned : m.hart.csrs.scratch.toNat % 4 = 0
  · simp [aligned]
  · simp [aligned, eq_comm, and_comm]

theorem trapCause_access (a : FrameAccess) (h : Hart) : a.op.trapCause h = none := by
  cases a <;> rfl

/-- **One operation of the runtime**, whose trap, if it dispatches one, finds an empty slot or the debug
handler: it faults just if it is an access to a saved register and the scratch register is unaligned. -/
theorem perform_faults_iff {op : Op} {m : Machine} (runtime : op.isRuntime = true)
    (default : ∀ c, op.trapCause m.hart = some c →
      m.table.get (Cause.code ⟨c⟩) = none ∨ m.table.get (Cause.code ⟨c⟩) = some .debug) :
    ((∃ f t, s.perform s.behaviour op m = .error (.fault f) t) ↔
      (∃ a : FrameAccess, op = a.op) ∧ m.hart.csrs.scratch.toNat % 4 ≠ 0) ∧
    ∀ f t, s.perform s.behaviour op m = .error (.fault f) t → t = m := by
  rcases op.runtime_cases runtime with ⟨a, rfl⟩ | traps | never
  · constructor
    · constructor
      · rintro ⟨f, t, faults⟩
        exact ⟨⟨a, rfl⟩, ((s.perform_access_fault_iff s.behaviour a).mp faults).1⟩
      · rintro ⟨-, unaligned⟩
        exact ⟨_, m, (s.perform_access_fault_iff s.behaviour a).mpr ⟨unaligned, rfl, rfl⟩⟩
    · intro f t faults
      exact ((s.perform_access_fault_iff s.behaviour a).mp faults).2.1
  · obtain ⟨c, trap⟩ := traps m.hart
    have sound := s.perform_trap_ne_fault trap (default c trap)
    refine ⟨⟨fun ⟨f, t, faults⟩ => absurd faults (sound f t), ?_⟩,
      fun f t faults => absurd faults (sound f t)⟩
    rintro ⟨⟨a, rfl⟩, -⟩
    rw [trapCause_access] at trap
    cases trap
  · have sound := never s s.behaviour m
    refine ⟨⟨fun ⟨f, t, faults⟩ => (sound f t faults).elim, ?_⟩,
      fun f t faults => (sound f t faults).elim⟩
    rintro ⟨⟨a, rfl⟩, unaligned⟩
    exact (sound _ m ((s.perform_access_fault_iff s.behaviour a).mpr ⟨unaligned, rfl, rfl⟩)).elim

/-! ### Handlers that use the runtime -/

/-- Handlers nest too deeply, or the scratch register that an access found is unaligned. -/
def UnalignedFrame (f : Fault) (t : Machine) : Prop :=
  f = .nestingLimit ∨ t.hart.csrs.scratch.toNat % 4 ≠ 0

theorem perform_faults_unaligned {behaviour : Behaviour}
    (handlers : ∀ h, (behaviour h).FaultsOnly UnalignedFrame) {op : Op}
    (runtime : op.isRuntime = true) : (s.perform behaviour op).FaultsOnly UnalignedFrame := by
  intro m f t faults
  rcases op.runtime_cases runtime with ⟨a, rfl⟩ | traps | never
  · obtain ⟨unaligned, rfl, -⟩ := (s.perform_access_fault_iff behaviour a).mp faults
    exact .inr unaligned
  · obtain ⟨c, trap⟩ := traps m.hart
    obtain ⟨h, -, failed⟩ := (s.perform_trap_error_iff trap).mp faults
    exact handlers h _ f t failed
  · exact (never s behaviour m f t faults).elim

theorem performAll_faults_unaligned {behaviour : Behaviour}
    (handlers : ∀ h, (behaviour h).FaultsOnly UnalignedFrame) (place : Nat) (ops : List Op)
    (runtime : ∀ op ∈ ops, op.isRuntime = true) :
    (s.performAll behaviour place ops).FaultsOnly UnalignedFrame := by
  induction ops with
  | nil => exact .pure ()
  | cons op ops ih =>
      have first := s.perform_faults_unaligned handlers (runtime op List.mem_cons_self)
      exact .bind first fun _ => .bind (.modify _) fun _ =>
        ih fun op mem => runtime op (List.mem_cons_of_mem _ mem)

end Scenario

open Scenario

theorem Dispatcher.contextGet_faults_unaligned (d : Dispatcher) (register : Word) :
    (d.contextGet register).FaultsOnly UnalignedFrame := by
  intro m f t faults
  rw [contextGet_apply] at faults
  split at faults
  · cases faults
  · rename_i unaligned
    cases faults
    exact .inr unaligned

theorem Dispatcher.contextPut_faults_unaligned (d : Dispatcher) (register value : Word) :
    (d.contextPut register value).FaultsOnly UnalignedFrame := by
  intro m f t faults
  rw [contextPut_apply] at faults
  split at faults
  · cases faults
  · rename_i unaligned
    cases faults
    exact .inr unaligned

theorem Probe.run_faults_unaligned (d : Dispatcher) (which : Probe) :
    (which.run d).FaultsOnly UnalignedFrame := by
  cases which with
  | countHit => exact .modify _
  | reportToCapture => exact .bind (.modify _) fun _ => .of_never (d.debugReport_neverFaults _)
  | bumpA0 =>
      exact .bind (d.contextGet_faults_unaligned _) fun _ =>
        .bind (d.contextGet_faults_unaligned _) fun _ =>
        .bind (d.contextGet_faults_unaligned _) fun _ => .bind (.modify _) fun _ =>
        .bind (d.contextGet_faults_unaligned _) fun _ => d.contextPut_faults_unaligned _ _
  | onTimer => exact .bind (.modify _) fun _ => .modify _

namespace Scenario

variable (s : Scenario)

/-- A handler faults where an access finds the scratch register unaligned, by induction over the depth
of nesting that is left. -/
theorem handler_faults_unaligned (scripts : ∀ number, ∀ op ∈ s.scripts number, op.isRuntime = true)
    (depth : Nat) (h : Handler) :
    (Handler.behaviour s.native (s.runScript depth) h).FaultsOnly UnalignedFrame := by
  induction depth generalizing h with
  | zero =>
      cases h with
      | debug => exact .of_never s.native.debugHandler_neverFaults
      | probe which => exact which.run_faults_unaligned s.native
      | script number =>
          rintro m f t faults
          cases faults
          exact .inl rfl
  | succ depth ih =>
      cases h with
      | debug => exact .of_never s.native.debugHandler_neverFaults
      | probe which => exact which.run_faults_unaligned s.native
      | script number =>
          have visit : (openVisit number).FaultsOnly UnalignedFrame :=
            .bind .get fun _ => .bind (.modify _) fun _ => .pure _
          exact .bind visit fun place =>
            s.performAll_faults_unaligned ih place _ (scripts number)

/-- **The runtime faults only where it finds a saved frame unaligned.** With a check before every load,
every access to the table, every shift and all arithmetic on positions in a frame, it is the same
runtime, whatever a failed check does; and the resume address wraps. A trap stops just as the handler
that it calls, whatever that does. Of the operations of the runtime, on any machine, those on saved
registers fault just if the scratch register is not a multiple of four, and leave everything as it was
then; no other one faults whose trap finds an empty slot or the debug handler. If the handlers use the
runtime and nothing else, then a fault of theirs comes from a scratch register that is not a multiple
of four, however deep they trap into each other, short of the depth that is supported. -/
theorem faults_only_at_unaligned_frames (s : Scenario) (positive : 1 ≤ s.config.frameRegisters) :
    (∀ (r : Refusal) (via : BitAccess),
      Checked.services r (s.dispatcher via) = (s.dispatcher via).services) ∧
    (∀ (via : BitAccess) (cause : Cause) (m : Machine), ∃ t,
      (s.dispatcher via).advance cause m = .ok () t ∧ t.hart.csrs.resumeAddress.toNat =
        if cause.resumesInPlace = true then m.hart.csrs.resumeAddress.toNat
        else (m.hart.csrs.resumeAddress.toNat + ((s.dispatcher via).stride m.hart).toNat) %
          2 ^ 32) ∧
    (∀ (behaviour : Behaviour) (op : Op) (m t : Machine) (c : Word) (e : Stop),
      op.trapCause m.hart = some c → (s.perform behaviour op m = .error e t ↔
        ∃ h, m.table.get (Cause.code ⟨c⟩) = some h ∧ behaviour h (op.entered m) = .error e t)) ∧
    (∀ (op : Op) (m : Machine), op.isRuntime = true →
      (∀ c, op.trapCause m.hart = some c →
        m.table.get (Cause.code ⟨c⟩) = none ∨ m.table.get (Cause.code ⟨c⟩) = some .debug) →
      ((∃ f t, s.perform s.behaviour op m = .error (.fault f) t) ↔
        (∃ a : FrameAccess, op = a.op) ∧ m.hart.csrs.scratch.toNat % 4 ≠ 0) ∧
      ∀ f t, s.perform s.behaviour op m = .error (.fault f) t → t = m) ∧
    ((∀ number, ∀ op ∈ s.scripts number, op.isRuntime = true) →
      ∀ (op : Op) (m t : Machine) (f : Fault), op.isRuntime = true →
        s.perform s.behaviour op m = .error (.fault f) t →
        f = .nestingLimit ∨ t.hart.csrs.scratch.toNat % 4 ≠ 0) := by
  refine ⟨fun r via => Checked.services_eq r positive,
    fun via cause m => (s.dispatcher via).advance_wraps cause m, ?trap, ?operation, ?handlers⟩
  case trap => exact fun _ _ _ _ _ _ trap => s.perform_trap_error_iff trap
  case operation => exact fun _ _ runtime default => s.perform_faults_iff runtime default
  case handlers =>
    intro scripts op m t f runtime faults
    have handlers := s.handler_faults_unaligned scripts (s.nesting.depth + 1)
    exact s.perform_faults_unaligned handlers runtime m f t faults

/-! A core without a register for the trapped instruction, at the last odd address, with stray bits in the
cause and a frame that is not aligned. -/

/-- Every script reads a saved register. -/
def compressedScenario : Scenario where
  config := { Config.default with frameRegisters := 24, compressedIsa := true, hasMtinst := false }
  entry := 0
  scripts := fun _ => [.contextGet .bitInstructions 5#32]

def strayMachine (slot : Option Handler) : Machine := .start
  { Hart.initial 0#32 with csrs := { Csrs.initial 0#32 with
    cause := 0x00000402#32, resumeAddress := 0xffffffff#32, scratch := 0x1002#32 } }
  (.uniform slot) true

theorem faults_only_at_stray_frame :
    1 ≤ compressedScenario.config.frameRegisters ∧
    (¬ ∃ f t, compressedScenario.perform compressedScenario.behaviour (.handleTrap .bitInstructions)
      (strayMachine (some .debug)) = .error (.fault f) t) ∧
    (∃ f t, compressedScenario.perform compressedScenario.behaviour
      (.contextGet .bitInstructions 5#32) (strayMachine none) = .error (.fault f) t) ∧
    (∃ t, compressedScenario.perform compressedScenario.behaviour (.handleTrap .bitInstructions)
        (strayMachine (some (.script 0))) = .error (.fault (.unalignedLoad 0x1016)) t ∧
      t.hart.csrs.scratch.toNat % 4 ≠ 0) := by
  have positive : 1 ≤ compressedScenario.config.frameRegisters := by decide
  obtain ⟨-, -, -, operation, handlers⟩ := faults_only_at_unaligned_frames compressedScenario positive
  refine ⟨positive, ?_, ?_, ?_⟩
  · rw [(operation _ (strayMachine (some .debug)) rfl fun _ trap => by cases trap; exact .inr rfl).1]
    rintro ⟨⟨a, same⟩, -⟩
    cases a <;> cases same
  · have faults := (operation (.contextGet .bitInstructions 5#32) (strayMachine none) rfl nofun).1
    refine faults.mpr ⟨⟨.get .bitInstructions 5#32, rfl⟩, ?_⟩
    decide
  · refine ⟨_, rfl, ?_⟩
    exact (handlers (by simp [compressedScenario, Op.isRuntime]) (.handleTrap .bitInstructions)
      (strayMachine (some (.script 0))) _ _ rfl rfl).resolve_left nofun

end Scenario

end TrapDispatch
