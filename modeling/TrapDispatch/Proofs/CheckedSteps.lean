import TrapDispatch.Proofs.PortRuntime

/-!
The runtime with a check before every step that could be refused: a load from memory, an access to the
vector table, a shift, and the arithmetic on positions in a frame.

* `Refusal`: what a failed check does. Nothing is known of it.
* `Checked.slot`, `Checked.install`, `Checked.mask`, `Checked.slotAddress`, …: the checked steps, on
  raw words. The codes of the library cannot be out of range, and words can.
* `Checked.services_eq`: with its checks the runtime is the runtime, whatever a failed check does. So
  none of them fails.
-/

namespace TrapDispatch

/-- A step that may not be taken. -/
inductive Violation where
  | unaligned (address : Nat)
  /-- There is no such item in a row. -/
  | index (i : Nat)
  /-- A word has fewer bits than it is shifted by. -/
  | shift (amount : Nat)
  /-- The result of a sum, a difference or a product does not fit. -/
  | overflow

/-- What becomes of an action that runs into a violation. -/
structure Refusal where
  refuse : {α : Type} → Violation → Act α

/-- The operations of a runtime. Setting a hart up and the global interrupt enable are left out: there
every number is a constant. -/
structure Services where
  install : Word → Option Handler → Act (Except InvalidCode Unit)
  handler : Code → Act (Option Handler)
  handleTrap : Behaviour → Act Unit
  trappedInstruction : Word → Act Word
  causeName : Cause → Act CauseName
  debugReport : Option Console → Act Unit
  enableIrq : Code → Act Unit
  disableIrq : Code → Act Unit
  contextGet : Word → Act Word
  contextPut : Word → Word → Act Unit

/-- The operations as they are. -/
def Dispatcher.services (d : Dispatcher) : Services where
  install := Act.install
  handler := Act.slot
  handleTrap := d.handleTrap
  trappedInstruction := d.trappedInstruction
  causeName c := pure c.name
  debugReport := d.debugReport
  enableIrq := d.enableIrq
  disableIrq := d.disableIrq
  contextGet := d.contextGet
  contextPut := d.contextPut

namespace Checked

variable (r : Refusal) {α : Type} {n : Nat}

/-! ### Checks -/

/-- An item of a row. -/
def item (row : Vector α n) (i : Nat) : Act α :=
  if h : i < n then pure (row.get ⟨i, h⟩) else r.refuse (.index i)

/-- A row with another item in one place. -/
def setItem (row : Vector α n) (i : Nat) (a : α) : Act (Vector α n) :=
  if h : i < n then pure (row.set i a h) else r.refuse (.index i)

def shiftLeft (w : Word) (amount : Nat) : Act Word :=
  if amount < 32 then pure (w <<< amount) else r.refuse (.shift amount)

/-- Sizes and offsets are computed in 64 bits. -/
def sum (a b : Nat) : Act Nat := if a + b < 2 ^ 64 then pure (a + b) else r.refuse .overflow

def difference (a b : Nat) : Act Nat := if b ≤ a then pure (a - b) else r.refuse .overflow

def product (a b : Nat) : Act Nat := if a * b < 2 ^ 64 then pure (a * b) else r.refuse .overflow

/-- The simulated hart, with loads and stores that check their address. -/
def port : Port :=
  { Port.simulated with
    load address := if address % 4 = 0 then Act.load address else r.refuse (.unaligned address)
    store address value :=
      if address % 4 = 0 then Act.store address value else r.refuse (.unaligned address) }

theorem port_faithful : (port r).Faithful :=
  { Port.simulated_faithful with
    load _ aligned := if_pos aligned
    store _ aligned _ := if_pos aligned }

/-! ### The vector table -/

/-- The place in its row of the slot that a word selects. -/
def index (w : Word) : Nat := (w &&& Code.indexMask).toNat

/-- The slot that a word selects: bit 31 tells the row, and the low five bits the place in it. -/
def slot (w : Word) : Act (Option Handler) := do
  let table := (← get).table
  let row ← item r #v[table.exceptions, table.interrupts] (Direction.ofWord w).row
  item r row (index w)

/-- Install a handler in the slot that a word selects, if no other bit of the word is set. -/
def install (code : Word) (slot : Option Handler) : Act (Except InvalidCode Unit) := do
  if code &&& ~~~Code.validMask = 0#32 then
    let table := (← get).table
    match Direction.ofWord code with
    | .exception =>
      let row ← setItem r table.exceptions (index code) slot
      Act.modifyTable ({ · with exceptions := row })
    | .interrupt =>
      let row ← setItem r table.interrupts (index code) slot
      Act.modifyTable ({ · with interrupts := row })
    return .ok ()
  else return .error ⟨code⟩

theorem index_eq (w : Word) : index w = (Word.low5 w).val := Word.toNat_and_low5 w

/-- A word selects the slot of the code that it encodes when its other bits are ignored. -/
theorem slot_eq (w : Word) : slot r w = Act.slot (Code.ofWord w) := by
  funext m
  have inRow (row : Vector (Option Handler) 32) :
      item r row (index w) = pure (row.get (Word.low5 w)) := by
    unfold item
    rw [dif_pos (by rw [index_eq]; exact (Word.low5 w).isLt)]
    exact congrArg (fun i => pure (row.get i)) (Fin.ext (index_eq w))
  rw [Act.slot_apply]
  unfold slot VectorTable.get Code.ofWord
  cases Direction.ofWord w with
  | exception => exact congrFun (inRow m.table.exceptions) m
  | interrupt => exact congrFun (inRow m.table.interrupts) m

theorem install_eq (code : Word) (slot : Option Handler) :
    install r code slot = Act.install code slot := by
  funext m
  have inRow (row : Vector (Option Handler) 32) : setItem r row (index code) slot =
      pure (row.set (Word.low5 code).val slot (Word.low5 code).isLt) := by
    unfold setItem
    simp only [index_eq, (Word.low5 code).isLt, dif_pos]
  unfold install Act.install Code.ofBits
  by_cases valid : code &&& ~~~Code.validMask = 0#32
  · simp only [valid, if_true, inRow]
    unfold VectorTable.install Code.ofWord
    cases Direction.ofWord code <;> rfl
  · simp only [valid, if_false]

/-! ### Traps -/

section

variable (d : Dispatcher)

/-- The runtime over the hart that checks its addresses. -/
def runtime : Runtime := ⟨port r, d.config⟩

/-- A dispatch looks the slot up by the cause without its stray bits. -/
def handleTrap (behaviour : Behaviour) : Act Unit := do
  let cause : Cause := ⟨← Act.read .cause⟩
  match ← slot r (cause.bits &&& Code.validMask) with
  | some handler => behaviour handler
  | none => pure ()
  (runtime r d).advance cause

theorem handleTrap_eq (behaviour : Behaviour) : handleTrap r d behaviour = d.handleTrap behaviour := by
  have masked (c : Cause) : slot r (c.bits &&& Code.validMask) = Act.slot c.code := by
    rw [slot_eq, ← Code.bits_ofWord, Code.ofWord_bits]
    rfl
  have onward (c : Cause) : (runtime r d).advance c = d.advance c :=
    Runtime.advance_faithful (port_faithful r) c
  unfold handleTrap
  simp only [masked, onward]
  rfl

/-- The channel of a fast interrupt line is what its index exceeds the first of them by. -/
def causeName (c : Cause) : Act CauseName :=
  if c.code.bits ≠ c.bits then pure (.unknown c.bits)
  else match c.code.title with
    | some title => pure (.named title)
    | none => do
      if c.isInterrupt && fastIrqBase ≤ index c.bits then
        return .fastIrq (← difference r (index c.bits) fastIrqBase)
      else return .unknown c.bits

theorem causeName_eq (c : Cause) : causeName r c = pure c.name := by
  have place : index c.bits = c.code.index.val := index_eq c.bits
  unfold causeName Cause.name difference
  rw [place]
  by_cases stray : c.code.bits ≠ c.bits
  · rw [if_pos stray, if_pos stray]
  · rw [if_neg stray, if_neg stray]
    cases c.code.title with
    | some title => rfl
    | none =>
        by_cases fast : (c.isInterrupt && decide (fastIrqBase ≤ c.code.index.val)) = true
        · have base : fastIrqBase ≤ c.code.index.val :=
            of_decide_eq_true (Bool.and_eq_true_iff.mp fast).2
          simp only [if_pos base, if_pos fast]
          rfl
        · simp only [fast, Bool.false_eq_true, if_false]

/-! ### Interrupt enables -/

/-- The mask of the interrupt source that a word selects. -/
def mask (w : Word) : Act Word := shiftLeft r 1#32 (index w)

theorem mask_eq (w : Word) : mask r w = pure (Word.bit (Word.low5 w)) := by
  unfold mask shiftLeft
  rw [index_eq, if_pos (Word.low5 w).isLt]
  rfl

def enableIrq (c : Code) : Act Unit := do
  if c.isInterrupt then Act.setBits d.access .interruptEnable (← mask r c.bits) else pure ()

def disableIrq (c : Code) : Act Unit := do
  if c.isInterrupt then Act.clearBits d.access .interruptEnable (← mask r c.bits) else pure ()

theorem enableIrq_eq (c : Code) : enableIrq r d c = d.enableIrq c := by
  unfold enableIrq
  rw [mask_eq, Code.low5_bits]
  rfl

theorem disableIrq_eq (c : Code) : disableIrq r d c = d.disableIrq c := by
  unfold disableIrq
  rw [mask_eq, Code.low5_bits]
  rfl

/-! ### Reports -/

/-- The default policy, with a mask for the source of an interrupt. -/
def applyPolicy (cause : Cause) : Act Unit :=
  match cause.disposition with
  | .unhandledInterrupt => do
    Act.clearBits d.access .interruptEnable (← mask r (cause.bits &&& Code.validMask))
  | .recoverableException => pure ()
  | .fatalException => do
    Act.write .interruptEnable 0#32
    Act.halt

/-- A report on an available console, whose line shows the cause by its name. -/
def debugReport (console : Option Console) : Act Unit := do
  match console with
  | none => pure ()
  | some c =>
    if c.isAvailable (← get) then
      let report ← (runtime r d).observe
      let _ ← causeName r report.cause
      Act.puts c report.text
      applyPolicy r d report.cause
    else pure ()

theorem applyPolicy_eq (cause : Cause) : applyPolicy r d cause = d.applyPolicy cause := by
  unfold applyPolicy
  rw [← Cause.code_bits, mask_eq, Code.low5_bits]
  rfl

theorem debugReport_eq (console : Option Console) : debugReport r d console = d.debugReport console := by
  have seen : (runtime r d).observe = d.observe := Runtime.observe_faithful (port_faithful r)
  unfold debugReport
  simp only [seen, causeName_eq, applyPolicy_eq]
  rfl

/-! ### Saved registers -/

/-- Where a register of the interrupted program is kept. -/
def slotAddress (register : Word) : Act Nat := do
  let base := (← Act.read .scratch).toNat
  let last ← difference r d.config.frameRegisters 1
  sum r base (← product r (register.toNat &&& last) 4)

def contextGet (register : Word) : Act Word := do
  Act.load (← slotAddress r d register)

def contextPut (register value : Word) : Act Unit := do
  Act.store (← slotAddress r d register) value

/-- A base and an offset of 32 and 34 bits are nowhere near the 64 bits that there are. -/
theorem slotAddress_eq (positive : 1 ≤ d.config.frameRegisters) (register : Word) :
    slotAddress r d register = d.frameSlot register := by
  funext m
  have base := (m.hart.read .scratch).isLt
  have number := register.isLt
  have masked := Nat.and_le_left (n := register.toNat) (m := d.config.frameRegisters - 1)
  have offset : (register.toNat &&& (d.config.frameRegisters - 1)) * 4 < 2 ^ 64 := by omega
  have address : (m.hart.read .scratch).toNat +
      (register.toNat &&& (d.config.frameRegisters - 1)) * 4 < 2 ^ 64 := by omega
  unfold slotAddress difference product sum
  simp only [Act.bind_apply, Act.read_apply, Act.pure_apply, if_pos positive, if_pos offset,
    if_pos address]
  rfl

end

/-! ### All together -/

/-- The operations with their checks. -/
def services (d : Dispatcher) : Services where
  install := install r
  handler c := slot r c.bits
  handleTrap := handleTrap r d
  trappedInstruction := (runtime r d).trappedInstruction
  causeName := causeName r
  debugReport := debugReport r d
  enableIrq := enableIrq r d
  disableIrq := disableIrq r d
  contextGet := contextGet r d
  contextPut := contextPut r d

/-- **With its checks the runtime is the runtime**, whatever a failed check does. -/
theorem services_eq {d : Dispatcher} (positive : 1 ≤ d.config.frameRegisters) :
    services r d = d.services := by
  have handler : (fun c : Code => slot r c.bits) = Act.slot := by
    funext c
    rw [slot_eq, Code.ofWord_bits]
  have instruction : (runtime r d).trappedInstruction = d.trappedInstruction :=
    funext fun resume => Runtime.trappedInstruction_faithful (port_faithful r) resume
  have got : contextGet r d = d.contextGet := by
    funext register
    unfold contextGet
    rw [slotAddress_eq r d positive]
    rfl
  have put : contextPut r d = d.contextPut := by
    funext register value
    unfold contextPut
    rw [slotAddress_eq r d positive]
    rfl
  unfold services Dispatcher.services
  rw [handler, instruction, got, put, funext (handleTrap_eq r d), funext (causeName_eq r),
    funext (debugReport_eq r d), funext (enableIrq_eq r d), funext (disableIrq_eq r d),
    funext fun w => funext (install_eq r w)]

end Checked

end TrapDispatch
