import TrapDispatch.Capture
import TrapDispatch.Hart
import TrapDispatch.Reply
import TrapDispatch.VectorTable

/-!
The machine as code on one hart sees it: its own hart, the shared vector table, the consoles, and
the notes that a session and the self tests take. Code is an action `Act`: it changes the machine
and then returns a value or stops. A stop undoes nothing. Other harts are not part of the machine,
so no action can reach them.
-/

namespace TrapDispatch

/-- The registered console, which keeps everything written to it. -/
structure Recorder where
  available : Bool
  text : String
  deriving DecidableEq, Repr

/-- The notes of the self tests, and the timer they use. -/
structure Bench where
  /-- Calls of the probes since a test last cleared the count. -/
  hits : Nat
  /-- What a probe last saw in `x0`, in the stack pointer and in `t2`. -/
  seenZero : Word
  seenStack : Word
  seenT2 : Word
  /-- The time, and the time at which the timer asks for an interrupt. -/
  time : BitVec 64
  deadline : BitVec 64
  deriving DecidableEq, Repr

/-- No hits, nothing seen, time zero and the timer disarmed. -/
def Bench.initial : Bench := ⟨0, 0xffffffff#32, 0#32, 0#32, 0#64, BitVec.allOnes 64⟩

@[ext]
structure Machine where
  hart : Hart
  table : VectorTable
  recorder : Recorder
  capture : Capture
  /-- The runs of scripted handlers in order of their start. -/
  visits : List Visit
  bench : Bench

/-- The bytes that the capture console of a machine keeps. -/
def captureCapacity : Nat := 256

/-- The machine of one hart at the start of an operation: nothing printed, captured or noted yet. -/
def Machine.start (hart : Hart) (table : VectorTable) (available : Bool) : Machine :=
  ⟨hart, table, ⟨available, ""⟩, .empty captureCapacity, [], .initial⟩

/-- A computation on the machine that returns or stops. -/
abbrev Act (α : Type) : Type := EStateM Stop Machine α

namespace Act

/-- What becomes of a machine: the value or the stop, and the machine left behind. -/
def outcome {α : Type} (x : Act α) (m : Machine) : Except Stop α × Machine :=
  match x m with
  | .ok a m => (.ok a, m)
  | .error e m => (.error e, m)

def stop {α : Type} (s : Stop) : Act α := fun m => .error s m

/-- Stop this hart. -/
def halt {α : Type} : Act α := stop .halted

def fault {α : Type} (f : Fault) : Act α := stop (.fault f)

/-! ### The hart -/

def modifyHart (f : Hart → Hart) : Act Unit := modify fun m => { m with hart := f m.hart }

def read (csr : Csr) : Act Word := return (← get).hart.read csr

def write (csr : Csr) (value : Word) : Act Unit := modifyHart (·.write csr value)

def setBits (via : BitAccess) (csr : Csr) (mask : Word) : Act Unit :=
  modifyHart (·.setBits via csr mask)

def clearBits (via : BitAccess) (csr : Csr) (mask : Word) : Act Unit :=
  modifyHart (·.clearBits via csr mask)

def fence : Act Unit := modifyHart Hart.fence

def load (address : Nat) : Act Word := do
  match (← get).hart.load address with
  | .ok value => return value
  | .error f => fault f

def store (address : Nat) (value : Word) : Act Unit := do
  match (← get).hart.store address value with
  | .ok hart => modifyHart fun _ => hart
  | .error f => fault f

/-! ### The vector table -/

def slot (c : Code) : Act (Option Handler) := return (← get).table.get c

def modifyTable (f : VectorTable → VectorTable) : Act Unit :=
  modify fun m => { m with table := f m.table }

/-! ### What the actions do to a machine -/

variable {α β : Type}

theorem pure_apply (a : α) (m : Machine) : (pure a : Act α) m = .ok a m := rfl

/-- The second action starts where the first one returned; a stop skips it. -/
theorem bind_apply (x : Act α) (f : α → Act β) (m : Machine) :
    (x >>= f) m = match x m with
      | .ok a m => f a m
      | .error e m => .error e m := by
  change EStateM.bind x f m = _
  unfold EStateM.bind
  cases x m <;> rfl

theorem modifyHart_apply (f : Hart → Hart) (m : Machine) :
    modifyHart f m = .ok () { m with hart := f m.hart } := rfl

theorem read_apply (csr : Csr) (m : Machine) : read csr m = .ok (m.hart.read csr) m := rfl

theorem slot_apply (c : Code) (m : Machine) : slot c m = .ok (m.table.get c) m := rfl

/-- A load stops at an address that is not a multiple of four, and never changes the machine. -/
theorem load_apply (address : Nat) (m : Machine) :
    load address m = if address % 4 = 0 then .ok (m.hart.memory.read address) m
      else .error (.fault (.unalignedLoad address)) m := by
  change (match m.hart.load address with
    | .ok value => (pure value : Act Word)
    | .error f => fault f) m = _
  unfold Hart.load
  split <;> rfl

/-- A store stops at an address that is not a multiple of four, before it changes the machine. -/
theorem store_apply (address : Nat) (value : Word) (m : Machine) :
    store address value m = if address % 4 = 0 then
        .ok () { m with hart := { m.hart with memory := m.hart.memory.write address value } }
      else .error (.fault (.unalignedStore address)) m := by
  change (match m.hart.store address value with
    | .ok hart => modifyHart fun _ => hart
    | .error f => (fault f : Act Unit)) m = _
  unfold Hart.store
  split <;> rfl

end Act

end TrapDispatch
