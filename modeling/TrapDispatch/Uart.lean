import TrapDispatch.Utf8

/-!
A console over the eight byte registers of a 16550 serial line. Each register holds the last byte
written to it, and the line is always ready to send. Nothing is sent before `init`.

What goes to the registers is up to the `uart_16550` library, version 0.4.0, which the console
calls: `init`, `transmit` and `wire` stand for it. `SerialDriver.Documented` says what that library
is documented to do, and `SerialDriver.Documented.run_eq` that a console over any such driver does
what is done here.
-/

namespace TrapDispatch

structure Uart where
  regs : Vector Byte 8
  /-- The device has been initialised. -/
  ready : Bool
  deriving DecidableEq, Repr

namespace Uart

/-- A device that is not initialised yet. Its line status always shows that it is ready to send. -/
def ofRegs (regs : Vector Byte 8) : Uart := ⟨regs.set 5 (regs[5] ||| 0x20), false⟩

def isAvailable (u : Uart) : Bool := u.ready

/-- Initialisation by the `uart_16550` library: interrupts on received data, FIFO cleared and
enabled, eight data bits, modem lines on. The data register keeps the low byte of the baud-rate
divisor, which passes through it. -/
def init (u : Uart) : Uart :=
  ⟨((((u.regs.set 0 3).set 1 1).set 2 0xC7).set 3 3).set 4 0x0B, true⟩

/-- Write a byte to the data register, as the `uart_16550` library sends one. -/
def transmit (u : Uart) (byte : Byte) : Uart := { u with regs := u.regs.set 0 byte }

/-- The bytes that the `uart_16550` library sends for a byte: backspace and delete erase the
previous character. -/
def wire (byte : Byte) : List Byte :=
  if byte = 8 || byte = 0x7F then [8, 0x20, 8] else [byte]

/-- Send a byte, if the device is initialised. -/
def putc (u : Uart) (byte : Byte) : Uart :=
  if u.ready then (wire byte).foldl transmit u else u

def puts (u : Uart) (s : String) : Uart := (Utf8.bytes s).foldl putc u

/-- Text may be sent in pieces. -/
theorem puts_append (u : Uart) (s t : String) : u.puts (s ++ t) = (u.puts s).puts t := by
  simp [puts]

end Uart

/-! ### Commands to a device -/

inductive UartCommand where
  | init
  | putc (byte : Byte)
  | puts (text : String)
  deriving DecidableEq, Repr

def UartCommand.run (u : Uart) : UartCommand → Uart
  | .init => u.init
  | .putc byte => u.putc byte
  | .puts text => u.puts text

end TrapDispatch
