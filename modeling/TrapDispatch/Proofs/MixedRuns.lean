import TrapDispatch.Proofs.PortRuntime

/-!
Sessions in which every call of the runtime goes through the port of its own choice.

* `Operations.mixed_agree`: a call is answered alike through the port of its choice and through the
  simulated hart.
* `Program`: code around the runtime, such as a handler: it calls the runtime and goes on by the reply.
* `run_eq`, `handle_eq`, `session_eq`: where calls are answered alike, programs, handlers that are
  programs and may run handlers in turn, and sessions of programs run alike.
* `mixed_session_eq`: the two ports agree on every primitive, and a session that mixes them is the same
  session over the simulated hart.
-/

namespace TrapDispatch

namespace Operations

/-! ### Picking a port for each call -/

/-- Wherever frames are aligned and handlers do the same, calls are answered alike, whichever port each
of them picks. -/
def Agree (ops ops' : BitAccess → Operations) : Prop :=
  ∀ {behaviour behaviour' : Behaviour} {handlers : Handler → Machine → Prop},
    (∀ handler m, handlers handler m → behaviour handler m = behaviour' handler m) →
    ∀ (via : BitAccess) (c : Call) (m : Machine), c.Aligned handlers m →
      c.perform (ops via) behaviour m = c.perform (ops' via) behaviour' m

/-- The operations of a runtime over the port that is asked for. -/
def mixed (unaligned : Unaligned) (config : Config) (via : BitAccess) : Operations :=
  Runtime.operations ⟨.ofAccess unaligned via, config⟩

/-- The operations of a runtime over the simulated hart, whichever port is asked for. -/
def simulated (config : Config) (_ : BitAccess) : Operations :=
  Runtime.operations ⟨.simulated, config⟩

theorem mixed_agree (unaligned : Unaligned) (config : Config) :
    Agree (mixed unaligned config) (simulated config) := by
  intro behaviour behaviour' handlers same via c m aligned
  have faithful := Port.ofAccess_faithful unaligned via
  have reference : simulated config via = Dispatcher.operations ⟨via, config⟩ :=
    Runtime.operations_simulated ⟨via, config⟩
  rw [reference]
  exact Call.perform_faithful (d := ⟨via, config⟩) faithful same c aligned

end Operations

/-- Code around the runtime. Each call picks a port; in between the code changes the machine as it
likes, and goes on by the machine that it saw. -/
inductive Program where
  | done (reply : Reply)
  | halt
  | call (via : BitAccess) (c : Call) (next : Reply → Program)
  | own (change : Machine → Machine) (next : Machine → Program)

namespace Program

/-! ### Programs -/

section

variable (ops : BitAccess → Operations)

/-- Run a program, given what handlers do. -/
def run (behaviour : Behaviour) : Program → Act Reply
  | .done reply => pure reply
  | .halt => Act.halt
  | .call via c next => do
    let reply ← c.perform (ops via) behaviour
    (next reply).run behaviour
  | .own change next => do
    let m ← get
    set (change m)
    (next m).run behaviour

/-- Every access to a saved frame along a run finds the frame aligned. -/
def Aligned (behaviour : Behaviour) (handlers : Handler → Machine → Prop) :
    Program → Machine → Prop
  | .done _, _ | .halt, _ => True
  | .call via c next, m => c.Aligned handlers m ∧
      ∀ reply after, c.perform (ops via) behaviour m = .ok reply after →
        (next reply).Aligned behaviour handlers after
  | .own change next, m => (next m).Aligned behaviour handlers (change m)

/-! ### Handlers -/

variable (code : Handler → Program)

/-- What handlers do that are programs themselves. They may run handlers in turn, down to a depth. -/
def handle : (depth : Nat) → Behaviour
  | 0, _ => Act.fault .nestingLimit
  | depth + 1, handler => do
    let _ ← (code handler).run ops (handle depth)

/-- Every access to a saved frame that a handler makes, or a handler that it runs in turn, finds the
frame aligned. -/
def HandlesAligned : (depth : Nat) → Handler → Machine → Prop
  | 0, _, _ => True
  | depth + 1, handler, m =>
    (code handler).Aligned ops (handle ops code depth) (HandlesAligned depth) m

/-! ### Sessions -/

variable (depth : Nat)

/-- Programs one after another on one machine, and the replies that they give. A program that stops
keeps what it changed, and the next one goes on from there. -/
def session : List Program → Machine → List (Except Stop Reply) × Machine
  | [], m => ([], m)
  | program :: programs, m =>
    let first := (program.run ops (handle ops code depth)).outcome m
    let rest := session programs first.2
    (first.1 :: rest.1, rest.2)

/-- Every access to a saved frame in a session finds the frame aligned. -/
def SessionAligned : List Program → Machine → Prop
  | [], _ => True
  | program :: programs, m =>
    program.Aligned ops (handle ops code depth) (HandlesAligned ops code depth) m ∧
      SessionAligned programs ((program.run ops (handle ops code depth)).outcome m).2

end

/-! ### Running alike -/

variable {ops ops' : BitAccess → Operations}

/-- **A program** whose calls are answered alike runs alike, by induction over the program. -/
theorem run_eq (agree : Operations.Agree ops ops') {behaviour behaviour' : Behaviour}
    {handlers : Handler → Machine → Prop}
    (same : ∀ handler m, handlers handler m → behaviour handler m = behaviour' handler m)
    (program : Program) {m : Machine} (aligned : program.Aligned ops' behaviour' handlers m) :
    program.run ops behaviour m = program.run ops' behaviour' m := by
  induction program generalizing m with
  | done reply => rfl
  | halt => rfl
  | call via c next ih =>
      obtain ⟨now, later⟩ := aligned
      rw [run, run, Act.bind_apply, Act.bind_apply, agree same via c m now]
      cases performed : c.perform (ops' via) behaviour' m with
      | ok reply after => exact ih reply (later reply after performed)
      | error reason after => rfl
  | own change next ih => exact ih m aligned

/-- **A handler** runs alike, by induction over the depth. -/
theorem handle_eq (agree : Operations.Agree ops ops') (code : Handler → Program) (depth : Nat)
    (handler : Handler) (m : Machine) (aligned : HandlesAligned ops' code depth handler m) :
    handle ops code depth handler m = handle ops' code depth handler m := by
  induction depth generalizing handler m with
  | zero => rfl
  | succ depth ih =>
      have ran := (code handler).run_eq agree ih aligned
      rw [handle, handle, Act.bind_apply, Act.bind_apply, ran]

/-- **A session** runs alike, by induction over its programs. -/
theorem session_eq (agree : Operations.Agree ops ops') (code : Handler → Program) (depth : Nat)
    (programs : List Program) {m : Machine} (aligned : SessionAligned ops' code depth programs m) :
    session ops code depth programs m = session ops' code depth programs m := by
  induction programs generalizing m with
  | nil => rfl
  | cons program programs ih =>
      obtain ⟨now, later⟩ := aligned
      have ran := program.run_eq agree (handle_eq agree code depth) now
      have first : (program.run ops (handle ops code depth)).outcome m =
          (program.run ops' (handle ops' code depth)).outcome m := by
        unfold Act.outcome
        rw [ran]
      rw [session, session, first, ih later]

/-- **The two ports agree.** For every register and every word, reading, writing, setting bits and
clearing bits are the same actions through either port: they give the same result and leave the same
machine. The runtime over the simulated hart is the dispatcher, whichever way that changes bits. In
a session in which accesses to saved frames find them aligned, every call, those of handlers
included, may go through a port of its own choice: all replies and the whole machine afterwards are
those of the same session over the simulated hart. -/
theorem mixed_session_eq (unaligned : Unaligned) (config : Config) :
    (∀ (csr : Csr) (word : Word),
      (Port.native unaligned).read csr = Port.simulated.read csr ∧
      (Port.native unaligned).write csr word = Port.simulated.write csr word ∧
      (Port.native unaligned).setBits csr word = Port.simulated.setBits csr word ∧
      (Port.native unaligned).clearBits csr word = Port.simulated.clearBits csr word) ∧
    (∀ via, Runtime.operations ⟨.simulated, config⟩ = Dispatcher.operations ⟨via, config⟩) ∧
    ∀ (code : Handler → Program) (depth : Nat) (programs : List Program) (m : Machine),
      SessionAligned (.simulated config) code depth programs m →
      session (.mixed unaligned config) code depth programs m =
        session (.simulated config) code depth programs m := by
  have native := Port.native_faithful unaligned
  have simulated := Port.simulated_faithful
  refine ⟨fun csr word => ⟨?read, ?write, ?set, ?clear⟩, ?dispatcher, ?sessions⟩
  case read => rw [native.read, simulated.read]
  case write => rw [native.write, simulated.write]
  case set => rw [native.setBits .readModifyWrite, simulated.setBits .readModifyWrite]
  case clear => rw [native.clearBits .readModifyWrite, simulated.clearBits .readModifyWrite]
  case dispatcher => exact fun via => Runtime.operations_simulated ⟨via, config⟩
  case sessions =>
    intro code depth programs m aligned
    exact session_eq (Operations.mixed_agree unaligned config) code depth programs aligned

/-- Real memory that stops the hart at an unaligned access. -/
def refusing : Unaligned := ⟨fun _ => Act.halt, fun _ _ => Act.halt⟩

/-- A handler that changes a saved register, over the hart that it runs on. -/
def putA0 (_ : Handler) : Program := .call .bitInstructions (.contextPut 10#32 7#32) .done

/-- A frame is laid out, the handler is installed over one port and run over the other, and what it
wrote is read back. -/
def breakpointVisit : List Program :=
  [.own (fun m => { m with hart := (m.hart.raise 3#32 0x100#32).pushFrame 0x1000 Frame.zero })
      fun _ => .call .readModifyWrite (.install 3#32 (some .debug)) .done,
    .call .bitInstructions .handleTrap .done,
    .call .readModifyWrite (.contextGet 10#32) .done]

/-- A hart out of reset. -/
def fresh : Machine := .start (.initial 0#32) .empty true

theorem mixed_session_eq_breakpoint :
    SessionAligned (.simulated .default) putA0 1 breakpointVisit fresh ∧
      (session (.mixed refusing .default) putA0 1 breakpointVisit fresh).1 =
        [.ok .accepted, .ok .nothing, .ok (.word 7#32)] := by
  have base : 0x1000 % 4 = 0 := rfl
  have aligned : SessionAligned (.simulated .default) putA0 1 breakpointVisit fresh := by
    refine ⟨?install, ?dispatch, ?get, trivial⟩
    case install => exact ⟨trivial, fun _ _ _ => trivial⟩
    case dispatch => exact ⟨fun _ _ => ⟨base, fun _ _ _ => trivial⟩, fun _ _ _ => trivial⟩
    case get => exact ⟨base, fun _ _ _ => trivial⟩
  refine ⟨aligned, ?_⟩
  rw [(mixed_session_eq refusing .default).2.2 putA0 1 breakpointVisit fresh aligned]
  rfl

end Program

end TrapDispatch
