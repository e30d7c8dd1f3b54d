import TrapDispatch.Proofs.DiagnosticLine
import TrapDispatch.Proofs.HartPorts
import TrapDispatch.Proofs.SavedRegisters

/-!
The runtime written against a port, and what it does through a port that reaches the hart.

* `Runtime.setup_faithful`, …, `Runtime.debugReport_faithful`: through such a port each operation is the
  dispatcher's own, whichever way the dispatcher changes bits. Accesses to a saved frame need the
  frame to be aligned; the instruction that trapped is always fetched from an aligned address.
* `Call.perform_faithful`: so is the answer to a call, on a machine on which the handler that the call
  runs does the same.
* `Runtime.operations_simulated`: over the simulated hart the runtime is the dispatcher.
-/

namespace TrapDispatch

/-- A runtime: the port to its hart, and what it knows of the core. -/
structure Runtime where
  port : Port
  config : Config

namespace Runtime

/-! ### Operations -/

section

variable (r : Runtime)

/-- Prepare the hart for traps, and on the primary hart put the default handler into every slot. -/
def setup (entry : Nat) (default : Handler) : Act Unit := do
  r.port.write .status machinePrivilege
  r.port.write .trapVector (BitVec.ofNat 32 entry &&& ~~~3#32)
  r.port.write .interruptEnable 0#32
  if (← r.port.read .hartId) = r.config.primaryHart then
    Act.modifyTable (·.fill default)
  r.port.fence

/-- The instruction that trapped, reported by the core or fetched from memory. -/
def trappedInstruction (resume : Word) : Act Word := do
  if r.config.hasMtinst then r.port.read .trappedInstruction
  else
    let word ← r.port.load (resume &&& ~~~3#32).toNat
    return if resume &&& 2#32 = 0#32 then word else word >>> 16

/-- Move the resume address past the trapped instruction, where the cause asks for it. -/
def advance (cause : Cause) : Act Unit := do
  if cause.resumesInPlace then pure ()
  else
    let resume ← r.port.read .resumeAddress
    let instruction ← if r.config.compressedIsa then r.trappedInstruction resume else pure 0#32
    match cause.nextResume resume instruction r.config.compressedIsa with
    | some next => r.port.write .resumeAddress next
    | none => pure ()

/-- Call the handler in the slot of the cause, if there is one, and move the resume address on. -/
def handleTrap (behaviour : Behaviour) : Act Unit := do
  let cause : Cause := ⟨← r.port.read .cause⟩
  match ← Act.slot cause.code with
  | some handler => behaviour handler
  | none => pure ()
  r.advance cause

/-- Where a register of the interrupted program is kept. -/
def frameSlot (register : Word) : Act Nat :=
  return (← r.port.read .scratch).toNat + Frame.slotOffset register r.config.frameRegisters

def contextGet (register : Word) : Act Word := do
  r.port.load (← r.frameSlot register)

def contextPut (register value : Word) : Act Unit := do
  r.port.store (← r.frameSlot register) value

/-- The instruction that a report shows. -/
def reportedInstruction (cause : Cause) (resume : Word) : Act Word :=
  if r.config.hasMtinst || cause.disposition = .recoverableException then
    r.trappedInstruction resume
  else pure 0#32

/-- The report about the current trap. -/
def observe : Act Report := do
  let cause : Cause := ⟨← r.port.read .cause⟩
  let resume ← r.port.read .resumeAddress
  return {
    hart := ← r.port.read .hartId
    machineMode := (← r.port.read .status) &&& machinePrivilege ≠ 0#32
    cause
    resume
    instruction := ← r.reportedInstruction cause resume
    value := ← r.port.read .trapValue }

/-- The default policy. -/
def applyPolicy (cause : Cause) : Act Unit :=
  match cause.disposition with
  | .unhandledInterrupt => r.port.clearBits .interruptEnable (Word.bit cause.code.index)
  | .recoverableException => pure ()
  | .fatalException => do
    r.port.write .interruptEnable 0#32
    r.port.halt

/-- Report the current trap on a console and apply the default policy. -/
def debugReport (console : Option Console) : Act Unit := do
  match console with
  | none => pure ()
  | some c =>
    if c.isAvailable (← get) then
      let report ← r.observe
      Act.puts c report.text
      r.applyPolicy report.cause
    else pure ()

end

/-! ### Through a port that reaches the hart -/

variable {p : Port} {d : Dispatcher}

theorem setup_faithful (faithful : p.Faithful) (entry : Nat) (default : Handler) :
    setup ⟨p, d.config⟩ entry default = d.setup entry default := by
  simp only [setup, Dispatcher.setup, faithful.read, faithful.write, faithful.fence]

/-- The instruction is fetched from an aligned address. -/
theorem trappedInstruction_faithful (faithful : p.Faithful) (resume : Word) :
    trappedInstruction ⟨p, d.config⟩ resume = d.trappedInstruction resume := by
  have aligned : (resume &&& ~~~3#32).toNat % 4 = 0 := by
    rw [Word.toNat_and_not_three]
    exact Nat.mul_mod_left ..
  simp only [trappedInstruction, Dispatcher.trappedInstruction, faithful.read,
    faithful.load _ aligned]

theorem advance_faithful (faithful : p.Faithful) (cause : Cause) :
    advance ⟨p, d.config⟩ cause = d.advance cause := by
  have simulated := Port.simulated_faithful
  change _ = advance ⟨.simulated, d.config⟩ cause
  simp only [advance, faithful.read, faithful.write, trappedInstruction_faithful faithful,
    simulated.read, simulated.write, trappedInstruction_faithful simulated]

/-- A dispatch that finds a handler which does the same does the same. -/
theorem handleTrap_faithful (faithful : p.Faithful) {behaviour behaviour' : Behaviour} {m : Machine}
    (same : ∀ handler, m.table.get (Cause.code ⟨m.hart.csrs.cause⟩) = some handler →
      behaviour handler m = behaviour' handler m) :
    handleTrap ⟨p, d.config⟩ behaviour m = d.handleTrap behaviour' m := by
  have dispatch : handleTrap ⟨p, d.config⟩ behaviour = d.handleTrap behaviour := by
    have simulated := Port.simulated_faithful
    change _ = handleTrap ⟨.simulated, d.config⟩ behaviour
    simp only [handleTrap, faithful.read, advance_faithful faithful, simulated.read,
      advance_faithful simulated]
  have called : Dispatcher.call behaviour (m.table.get (Cause.code ⟨m.hart.csrs.cause⟩)) m =
      Dispatcher.call behaviour' (m.table.get (Cause.code ⟨m.hart.csrs.cause⟩)) m := by
    cases found : m.table.get (Cause.code ⟨m.hart.csrs.cause⟩) with
    | none => rfl
    | some handler => exact same handler found
  rw [dispatch, Dispatcher.handleTrap_apply, Dispatcher.handleTrap_apply, called]

/-- A slot lies in the frame that the scratch register points at, as the dispatcher has it. -/
theorem frameSlot_apply (faithful : p.Faithful) (register : Word) (m : Machine) :
    frameSlot ⟨p, d.config⟩ register m = .ok (d.slotAddress m.hart register) m := by
  unfold frameSlot
  rw [faithful.read]
  rfl

theorem contextGet_faithful (faithful : p.Faithful) {m : Machine}
    (aligned : m.hart.csrs.scratch.toNat % 4 = 0) (register : Word) :
    contextGet ⟨p, d.config⟩ register m = d.contextGet register m := by
  have slot := (d.slotAddress_mod_four m.hart register).trans aligned
  unfold contextGet
  rw [Act.bind_of_ok (frameSlot_apply faithful register m), faithful.load _ slot]
  rfl

theorem contextPut_faithful (faithful : p.Faithful) {m : Machine}
    (aligned : m.hart.csrs.scratch.toNat % 4 = 0) (register value : Word) :
    contextPut ⟨p, d.config⟩ register value m = d.contextPut register value m := by
  have slot := (d.slotAddress_mod_four m.hart register).trans aligned
  unfold contextPut
  rw [Act.bind_of_ok (frameSlot_apply faithful register m), faithful.store _ slot]
  rfl

theorem observe_faithful (faithful : p.Faithful) : observe ⟨p, d.config⟩ = d.observe := by
  simp only [observe, Dispatcher.observe, reportedInstruction, Dispatcher.reportedInstruction,
    faithful.read, trappedInstruction_faithful faithful]

theorem applyPolicy_faithful (faithful : p.Faithful) (cause : Cause) :
    applyPolicy ⟨p, d.config⟩ cause = d.applyPolicy cause := by
  unfold applyPolicy Dispatcher.applyPolicy
  cases cause.disposition with
  | unhandledInterrupt => exact faithful.clearBits d.access ..
  | recoverableException => rfl
  | fatalException => simp only [faithful.write, faithful.halt]

theorem debugReport_faithful (faithful : p.Faithful) (console : Option Console) :
    debugReport ⟨p, d.config⟩ console = d.debugReport console := by
  cases console with
  | none => rfl
  | some c =>
      simp only [debugReport, Dispatcher.debugReport, observe_faithful faithful,
        applyPolicy_faithful faithful]

end Runtime

/-! ### Calls -/

/-- The operations through which a hart is reached; the vector table is shared memory and is reached
without them. -/
structure Operations where
  setup : Nat → Handler → Act Unit
  handleTrap : Behaviour → Act Unit
  contextGet : Word → Act Word
  contextPut : Word → Word → Act Unit
  debugReport : Option Console → Act Unit

def Runtime.operations (r : Runtime) : Operations :=
  ⟨r.setup, r.handleTrap, r.contextGet, r.contextPut, r.debugReport⟩

def Dispatcher.operations (d : Dispatcher) : Operations :=
  ⟨d.setup, d.handleTrap, d.contextGet, d.contextPut, d.debugReport⟩

/-- A call of the runtime. -/
inductive Call where
  | setup (entry : Nat) (default : Handler)
  | install (code : Word) (slot : Option Handler)
  | handler (code : Code)
  | handleTrap
  | contextGet (register : Word)
  | contextPut (register value : Word)
  | debugReport (console : Option Console)

namespace Call

/-- Carry a call out, given what handlers do. -/
def perform (ops : Operations) (behaviour : Behaviour) : Call → Act Reply
  | .setup entry default => do
    ops.setup entry default
    return .nothing
  | .install code slot => do
    match ← Act.install code slot with
    | .ok () => return .accepted
    | .error e => return .invalid e
  | .handler code => return .handler (← Act.slot code)
  | .handleTrap => do
    ops.handleTrap behaviour
    return .nothing
  | .contextGet register => return .word (← ops.contextGet register)
  | .contextPut register value => do
    ops.contextPut register value
    return .nothing
  | .debugReport console => do
    ops.debugReport console
    return .nothing

/-- An access to the saved frame finds it aligned, and so does every access that is made by the handler
that a dispatch runs. -/
def Aligned (handlers : Handler → Machine → Prop) (m : Machine) : Call → Prop
  | .contextGet _ | .contextPut .. => m.hart.csrs.scratch.toNat % 4 = 0
  | .handleTrap => ∀ handler, m.table.get (Cause.code ⟨m.hart.csrs.cause⟩) = some handler →
      handlers handler m
  | .setup .. | .install .. | .handler _ | .debugReport _ => True

variable {p : Port} {d : Dispatcher} {behaviour behaviour' : Behaviour}
  {handlers : Handler → Machine → Prop} {m : Machine}

/-- **A call through a port that reaches the hart** is answered as the dispatcher answers it. -/
theorem perform_faithful (faithful : p.Faithful)
    (same : ∀ handler m, handlers handler m → behaviour handler m = behaviour' handler m) (c : Call)
    (aligned : c.Aligned handlers m) :
    c.perform (Runtime.operations ⟨p, d.config⟩) behaviour m =
      c.perform d.operations behaviour' m := by
  cases c with
  | setup entry default =>
      simp only [perform, Runtime.operations, Dispatcher.operations, Runtime.setup_faithful faithful]
  | install code slot => rfl
  | handler code => rfl
  | handleTrap =>
      have dispatched := Runtime.handleTrap_faithful (d := d) faithful fun handler found =>
        same handler m (aligned handler found)
      simp only [perform, Runtime.operations, Dispatcher.operations, Act.bind_apply, dispatched]
  | contextGet register =>
      simp only [perform, Runtime.operations, Dispatcher.operations, Act.bind_apply,
        Runtime.contextGet_faithful faithful aligned]
  | contextPut register value =>
      simp only [perform, Runtime.operations, Dispatcher.operations, Act.bind_apply,
        Runtime.contextPut_faithful faithful aligned]
  | debugReport console =>
      simp only [perform, Runtime.operations, Dispatcher.operations,
        Runtime.debugReport_faithful faithful]

end Call

/-- Over the simulated hart the runtime is the dispatcher, whichever way that changes bits. -/
theorem Runtime.operations_simulated (d : Dispatcher) :
    Runtime.operations ⟨.simulated, d.config⟩ = d.operations := by
  have dispatch : handleTrap ⟨.simulated, d.config⟩ = d.handleTrap := by
    funext behaviour m
    exact handleTrap_faithful Port.simulated_faithful fun _ _ => rfl
  have report : debugReport ⟨.simulated, d.config⟩ = d.debugReport :=
    funext fun console => debugReport_faithful Port.simulated_faithful console
  unfold operations Dispatcher.operations
  rw [dispatch, report]
  rfl

end TrapDispatch
