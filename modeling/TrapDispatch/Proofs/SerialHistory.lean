import TrapDispatch.Uart

/-!
A console on a serial line, over any sequence of commands.

* `SerialDriver.Documented`: what the driver of the line is known to do to the eight registers.
* `Documented.after_eq`: over such a driver the console goes through the states of a `Uart`.
* `Uart.after_of_output`: commands that only send are their bytes, one after another.
* `Uart.foldl_putc_of_ready`: bytes that are sent leave a trace in the data register alone, and only
  the last of them does.
* `registers_tell_last_byte`: what the registers hold at every point of a run.
-/

namespace TrapDispatch

/-! ### The driver of a serial line -/

/-- What a console asks of the driver of a serial line. -/
structure SerialDriver where
  init : Vector Byte 8 → Vector Byte 8
  send : Byte → Vector Byte 8 → Vector Byte 8

/-- The registers after a write to one of them. -/
def storeRegister (regs : Vector Byte 8) (i : Fin 8) (byte : Byte) : Vector Byte 8 :=
  regs.set i byte

/-- The line status shows that a byte may be sent. -/
def TransmitterReady (regs : Vector Byte 8) : Prop := regs.get 5 &&& 0x20 ≠ 0

/-- What the driver is documented to do. Initialisation writes the five lower registers. A byte is
sent through the data register, as soon as the transmitter is ready; backspace and delete are sent
as backspace, blank and backspace. -/
structure SerialDriver.Documented (d : SerialDriver) : Prop where
  init_eq (regs : Vector Byte 8) :
    d.init regs = (#v[3, 1, 0xC7, 3, 0x0B, regs.get 5, regs.get 6, regs.get 7] : Vector Byte 8)
  send_eq {regs : Vector Byte 8} {byte : Byte} (ready : TransmitterReady regs)
    (visible : ¬(byte = 8 ∨ byte = 0x7F)) : d.send byte regs = storeRegister regs 0 byte
  erase_eq {regs : Vector Byte 8} {byte : Byte} (ready : TransmitterReady regs)
    (erases : byte = 8 ∨ byte = 0x7F) :
    d.send byte regs = storeRegister (storeRegister (storeRegister regs 0 8) 0 0x20) 0 8

namespace SerialDriver

/-- Send a byte, if the console has been initialised. -/
def putc (d : SerialDriver) (u : Uart) (byte : Byte) : Uart :=
  if u.ready then { u with regs := d.send byte u.regs } else u

/-- A console over a driver carries a command out. -/
def run (d : SerialDriver) (u : Uart) : UartCommand → Uart
  | .init => ⟨d.init u.regs, true⟩
  | .putc byte => d.putc u byte
  | .puts text => (Utf8.bytes text).foldl d.putc u

def after (d : SerialDriver) (u : Uart) (commands : List UartCommand) : Uart :=
  commands.foldl d.run u

end SerialDriver

/-! ### What commands send -/

namespace UartCommand

/-- The bytes that a command sends. -/
def sent : UartCommand → List Byte
  | .init => []
  | .putc byte => [byte]
  | .puts text => Utf8.bytes text

/-- A command byte by byte. -/
def bytewise : UartCommand → List UartCommand
  | .init => [.init]
  | .putc byte => [.putc byte]
  | .puts text => (Utf8.bytes text).map .putc

end UartCommand

namespace Uart

variable {u : Uart} {commands : List UartCommand}

/-- The device after commands, in order. -/
def after (u : Uart) (commands : List UartCommand) : Uart := commands.foldl UartCommand.run u

theorem after_append (u : Uart) (commands later : List UartCommand) :
    u.after (commands ++ later) = (u.after commands).after later := List.foldl_append

/-! ### Bytes on the line -/

@[simp] theorem get_transmit_zero (u : Uart) (byte : Byte) : (u.transmit byte).regs.get 0 = byte :=
  Vector.getElem_set_self ..

@[simp] theorem get_transmit_of_ne (u : Uart) (byte : Byte) {i : Fin 8} (other : i ≠ 0) :
    (u.transmit byte).regs.get i = u.regs.get i :=
  Vector.getElem_set_ne (by decide) i.isLt fun same => other (Fin.ext same.symm)

@[simp] theorem transmit_transmit (u : Uart) (first second : Byte) :
    (u.transmit first).transmit second = u.transmit second := by
  simp [transmit]

@[simp] theorem transmit_get_zero (u : Uart) : u.transmit (u.regs.get 0) = u :=
  congrArg (Uart.mk · u.ready) (Vector.set_getElem_self ..)

/-- What the data register holds when a byte has been sent. -/
def settled (byte : Byte) : Byte := if byte = 8 ∨ byte = 0x7F then 8 else byte

theorem putc_of_ready (ready : u.ready = true) (byte : Byte) :
    u.putc byte = u.transmit (settled byte) := by
  unfold putc wire settled
  rw [if_pos ready]
  simp only [Bool.or_eq_true, decide_eq_true_eq]
  split <;> simp

theorem putc_of_not_ready (silent : u.ready = false) (byte : Byte) : u.putc byte = u := by
  unfold putc
  rw [if_neg (by rw [silent]; exact Bool.false_ne_true)]

/-- **Of the bytes that are sent the last one shows**, and it shows in the data register alone. -/
theorem foldl_putc_of_ready (ready : u.ready = true) (bytes : List Byte) :
    bytes.foldl putc u = u.transmit ((bytes.getLast?.map settled).getD (u.regs.get 0)) := by
  induction bytes generalizing u with
  | nil => simp
  | cons byte bytes ih =>
      -- the device stays ready, and what the byte leaves is the default for the rest
      rw [List.foldl_cons, putc_of_ready ready, ih (u := u.transmit (settled byte)) ready,
        List.getLast?_cons]
      simp [Option.getD_map]

theorem foldl_putc_of_not_ready (silent : u.ready = false) (bytes : List Byte) :
    bytes.foldl putc u = u := by
  induction bytes with
  | nil => rfl
  | cons byte bytes ih => rw [List.foldl_cons, putc_of_not_ready silent, ih]

/-- Bytes change the data register alone. -/
theorem ready_foldl_putc (u : Uart) (bytes : List Byte) : (bytes.foldl putc u).ready = u.ready := by
  cases ready : u.ready with
  | true => rw [foldl_putc_of_ready ready]; exact ready
  | false => rw [foldl_putc_of_not_ready ready, ready]

theorem get_foldl_putc (u : Uart) (bytes : List Byte) {i : Fin 8} (control : i ≠ 0) :
    (bytes.foldl putc u).regs.get i = u.regs.get i := by
  cases ready : u.ready with
  | true => rw [foldl_putc_of_ready ready, get_transmit_of_ne _ _ control]
  | false => rw [foldl_putc_of_not_ready ready]

/-! ### Commands -/

/-- Commands that do not initialise the device only send their bytes. -/
theorem after_of_output (output : .init ∉ commands) (u : Uart) :
    u.after commands = (commands.flatMap UartCommand.sent).foldl putc u := by
  induction commands generalizing u with
  | nil => rfl
  | cons command commands ih =>
      have later := ih (List.not_mem_of_not_mem_cons output)
      rw [List.flatMap_cons, List.foldl_append, ← later]
      cases command with
      | init => exact absurd rfl (List.ne_of_not_mem_cons output)
      | putc byte => rfl
      | puts text => rfl

/-- A command is the same as its bytes. -/
theorem after_bytewise (u : Uart) (command : UartCommand) :
    u.after command.bytewise = command.run u := by
  cases command with
  | init => rfl
  | putc byte => rfl
  | puts text => exact List.foldl_map

theorem after_flatMap_bytewise (u : Uart) (commands : List UartCommand) :
    u.after (commands.flatMap UartCommand.bytewise) = u.after commands := by
  induction commands generalizing u with
  | nil => rfl
  | cons command commands ih => rw [List.flatMap_cons, after_append, after_bytewise, ih]; rfl

/-- Initialisation, register by register. -/
theorem regs_init (u : Uart) : u.init.regs =
    (#v[3, 1, 0xC7, 3, 0x0B, u.regs.get 5, u.regs.get 6, u.regs.get 7] : Vector Byte 8) := by
  apply Vector.ext
  intro i inside
  have cases : i = 0 ∨ i = 1 ∨ i = 2 ∨ i = 3 ∨ i = 4 ∨ i = 5 ∨ i = 6 ∨ i = 7 := by omega
  rcases cases with rfl | rfl | rfl | rfl | rfl | rfl | rfl | rfl <;> simp [init] <;> rfl

/-- The three upper registers are never written. -/
theorem get_run (u : Uart) (command : UartCommand) {i : Fin 8} (upper : 5 ≤ i) :
    (command.run u).regs.get i = u.regs.get i := by
  have control : i ≠ 0 := by omega
  cases command with
  | init =>
      have cases : i = 5 ∨ i = 6 ∨ i = 7 := by omega
      change u.init.regs.get i = u.regs.get i
      rw [regs_init]
      rcases cases with rfl | rfl | rfl <;> rfl
  | putc byte => exact get_foldl_putc u [byte] control
  | puts text => exact get_foldl_putc u _ control

theorem get_after (u : Uart) (commands : List UartCommand) {i : Fin 8} (upper : 5 ≤ i) :
    (u.after commands).regs.get i = u.regs.get i := by
  induction commands generalizing u with
  | nil => rfl
  | cons command commands ih => exact (ih (command.run u)).trans (u.get_run command upper)

/-- What initialisation leaves, and sending keeps. -/
structure Initialized (u : Uart) : Prop where
  ready : u.ready = true
  interrupts : u.regs.get 1 = 1
  fifo : u.regs.get 2 = 0xC7
  line : u.regs.get 3 = 3
  modem : u.regs.get 4 = 0x0B

theorem initialized_init (u : Uart) : u.init.Initialized where
  ready := rfl
  interrupts := by rw [regs_init]; rfl
  fifo := by rw [regs_init]; rfl
  line := by rw [regs_init]; rfl
  modem := by rw [regs_init]; rfl

namespace Initialized

theorem foldl_putc (held : u.Initialized) (bytes : List Byte) :
    (bytes.foldl putc u).Initialized where
  ready := (u.ready_foldl_putc bytes).trans held.ready
  interrupts := (u.get_foldl_putc bytes (by decide)).trans held.interrupts
  fifo := (u.get_foldl_putc bytes (by decide)).trans held.fifo
  line := (u.get_foldl_putc bytes (by decide)).trans held.line
  modem := (u.get_foldl_putc bytes (by decide)).trans held.modem

theorem run (held : u.Initialized) (command : UartCommand) : (command.run u).Initialized := by
  cases command with
  | init => exact u.initialized_init
  | putc byte => exact held.foldl_putc [byte]
  | puts text => exact held.foldl_putc (Utf8.bytes text)

theorem after (held : u.Initialized) (commands : List UartCommand) :
    (u.after commands).Initialized := by
  induction commands generalizing u with
  | nil => exact held
  | cons command commands ih => exact ih (held.run command)

end Initialized

/-- **Once a device has been initialised it stays so.** -/
theorem initialized_after (u : Uart) (initialised : .init ∈ commands) :
    (u.after commands).Initialized := by
  obtain ⟨past, later, rfl⟩ := List.append_of_mem initialised
  rw [after_append]
  exact (u.after past).initialized_init.after later

/-- Before it is initialised nothing happens to it. -/
theorem after_of_not_ready (silent : u.ready = false) (output : .init ∉ commands) :
    u.after commands = u := by
  rw [after_of_output output, foldl_putc_of_not_ready silent]

theorem ready_after (silent : u.ready = false) :
    (u.after commands).ready = true ↔ .init ∈ commands := by
  refine ⟨fun ready => ?_, fun initialised => (u.initialized_after initialised).ready⟩
  by_cases initialised : .init ∈ commands
  · exact initialised
  · rw [after_of_not_ready silent initialised, silent] at ready
    cases ready

/-- The data register shows the last byte since the last initialisation, which leaves a byte of its
own there. -/
theorem data_after (u : Uart) (past : List UartCommand) {sending : List UartCommand}
    (output : .init ∉ sending) : (u.after (past ++ .init :: sending)).regs.get 0 =
      ((sending.flatMap UartCommand.sent).getLast?.map settled).getD 3 := by
  have left : (u.after past).init.regs.get 0 = 3 := by rw [regs_init]; rfl
  rw [after_append]
  change ((u.after past).init.after sending).regs.get 0 = _
  rw [after_of_output output, foldl_putc_of_ready (u.after past).initialized_init.ready,
    get_transmit_zero, left]

end Uart

/-! ### The console over a documented driver -/

/-- A transmitter that is ready stays so. -/
theorem TransmitterReady.run {u : Uart} (transmitter : TransmitterReady u.regs)
    (command : UartCommand) : TransmitterReady (command.run u).regs := by
  unfold TransmitterReady
  rwa [u.get_run command (by decide)]

/-- The transmitter of a device is ready from the start. -/
theorem transmitterReady_ofRegs (regs : Vector Byte 8) :
    TransmitterReady (Uart.ofRegs regs).regs := by
  intro zero
  have status : (Uart.ofRegs regs).regs.get 5 = regs.get 5 ||| 0x20 := Vector.getElem_set_self ..
  rw [status] at zero
  have bit := congrArg (·.toBitVec.getLsbD 5) zero
  simp at bit

namespace SerialDriver.Documented

variable {d : SerialDriver} {u : Uart}

theorem putc_eq (documented : d.Documented) (transmitter : TransmitterReady u.regs) (byte : Byte) :
    d.putc u byte = u.putc byte := by
  cases ready : u.ready with
  | false =>
      rw [Uart.putc_of_not_ready ready, putc, if_neg (by rw [ready]; exact Bool.false_ne_true)]
  | true =>
      rw [Uart.putc_of_ready ready, putc, if_pos ready, ready, Uart.settled]
      split
      case isTrue erases =>
        simp [documented.erase_eq transmitter erases, storeRegister, Uart.transmit, ready]
      case isFalse visible =>
        simp [documented.send_eq transmitter visible, storeRegister, Uart.transmit, ready]

theorem foldl_putc_eq (documented : d.Documented) (transmitter : TransmitterReady u.regs)
    (bytes : List Byte) : bytes.foldl d.putc u = bytes.foldl Uart.putc u := by
  induction bytes generalizing u with
  | nil => rfl
  | cons byte bytes ih =>
      -- sending leaves the line status alone, so the transmitter is ready for the rest too
      rw [List.foldl_cons, documented.putc_eq transmitter]
      exact ih (transmitter.run (.putc byte))

/-- Over a documented driver a console does what the device does. -/
theorem run_eq (documented : d.Documented) (transmitter : TransmitterReady u.regs)
    (command : UartCommand) : d.run u command = command.run u := by
  cases command with
  | init =>
      have regs : d.init u.regs = u.init.regs := (documented.init_eq _).trans u.regs_init.symm
      exact congrArg (Uart.mk · true) regs
  | putc byte => exact documented.putc_eq transmitter byte
  | puts text => exact documented.foldl_putc_eq transmitter (Utf8.bytes text)

theorem after_eq (documented : d.Documented) (transmitter : TransmitterReady u.regs)
    (commands : List UartCommand) : d.after u commands = u.after commands := by
  induction commands generalizing u with
  | nil => rfl
  | cons command commands ih =>
      have first := documented.run_eq transmitter command
      exact (congrArg (d.after · commands) first).trans (ih (transmitter.run command))

end SerialDriver.Documented

/-- **The registers tell the last byte.** Take a console over a driver that is documented to do what
drivers of such a line do, whatever the eight registers hold at first, and any sequence of commands.
The console is available just if one of them has initialised it. Until then no register changes.
Afterwards the four registers next to the data register hold what initialisation writes there, and
the data register shows the last byte that was sent since the latest initialisation, be it by itself
or in a text, a backspace in place of a delete, or else the byte that initialisation leaves. The
three upper registers never change. Sequences that are the same byte by byte end in the same state,
and that is always the state of the device. -/
theorem registers_tell_last_byte {d : SerialDriver} (documented : d.Documented)
    (regs : Vector Byte 8) :
    let start := Uart.ofRegs regs
    (∀ commands, (d.after start commands).isAvailable = true ↔ .init ∈ commands) ∧
    (∀ commands, .init ∉ commands → (d.after start commands).regs = start.regs) ∧
    (∀ commands, .init ∈ commands →
      let held := (d.after start commands).regs
      held.get 1 = 1 ∧ held.get 2 = 0xC7 ∧ held.get 3 = 3 ∧ held.get 4 = 0x0B) ∧
    (∀ past sending, .init ∉ sending → (d.after start (past ++ .init :: sending)).regs.get 0 =
      match (sending.flatMap UartCommand.sent).getLast? with
      | none => 3
      | some byte => if byte = 8 ∨ byte = 0x7F then 8 else byte) ∧
    (∀ commands i, 5 ≤ i → (d.after start commands).regs.get i = start.regs.get i) ∧
    (∀ commands regrouped,
      commands.flatMap UartCommand.bytewise = regrouped.flatMap UartCommand.bytewise →
        d.after start commands = d.after start regrouped) ∧
    ∀ commands, d.after start commands = commands.foldl UartCommand.run start := by
  intro start
  have device : ∀ commands, d.after start commands = start.after commands :=
    documented.after_eq (transmitterReady_ofRegs regs)
  simp only [device]
  refine ⟨?available, ?before, ?control, ?data, ?upper, ?regrouped, fun _ => rfl⟩
  case available => exact fun commands => Uart.ready_after rfl
  case before =>
    intro commands output
    rw [Uart.after_of_not_ready rfl output]
  case control =>
    intro commands initialised
    have held := start.initialized_after initialised
    exact ⟨held.interrupts, held.fifo, held.line, held.modem⟩
  case data =>
    intro past sending output
    rw [start.data_after past output]
    cases (sending.flatMap UartCommand.sent).getLast? <;> rfl
  case upper => exact fun commands i upper => start.get_after commands upper
  case regrouped =>
    intro commands regrouped same
    rw [← start.after_flatMap_bytewise commands, same, start.after_flatMap_bytewise]

/-! A driver of that kind: a text sent too early, a text that ends in a character of two bytes, then
a second initialisation and a delete. -/

def lineDriver : SerialDriver where
  init regs := #v[3, 1, 0xC7, 3, 0x0B, regs.get 5, regs.get 6, regs.get 7]
  send byte regs := (Uart.wire byte).foldl (fun regs byte => storeRegister regs 0 byte) regs

theorem lineDriver_documented : lineDriver.Documented where
  init_eq _ := rfl
  send_eq _ visible := by simp [lineDriver, Uart.wire, visible]
  erase_eq _ erases := by simp [lineDriver, Uart.wire, erases]

def lineStart : Uart := .ofRegs #v[0x10, 0x20, 0x30, 0x40, 0x50, 0x60, 0x70, 0x80]

theorem registers_tell_last_byte_twice :
    lineDriver.Documented ∧
    (lineDriver.after lineStart [.puts "early"]).regs = lineStart.regs ∧
    (lineDriver.after lineStart [.puts "early", .init, .puts "né"]).regs.get 0 = 0xA9 ∧
    (lineDriver.after lineStart
      [.puts "early", .init, .puts "né", .init, .putc 0x7F]).regs.get 0 = 8 ∧
    lineDriver.after lineStart [.init, .puts "né"] =
      lineDriver.after lineStart [.init, .putc 0x6E, .putc 0xC3, .putc 0xA9] := by
  obtain ⟨-, before, -, data, -, regrouped, -⟩ := registers_tell_last_byte lineDriver_documented
    #v[0x10, 0x20, 0x30, 0x40, 0x50, 0x60, 0x70, 0x80]
  refine ⟨lineDriver_documented, before [.puts "early"] (by decide), ?_, ?_, ?_⟩
  · exact (data [.puts "early"] [.puts "né"] (by decide)).trans rfl
  · exact (data [.puts "early", .init, .puts "né"] [.putc 0x7F] (by decide)).trans rfl
  · exact regrouped [.init, .puts "né"] [.init, .putc 0x6E, .putc 0xC3, .putc 0xA9] rfl

end TrapDispatch
