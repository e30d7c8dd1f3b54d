import TrapDispatch.TestSuite

/-!
Self tests of the console: that one is registered, and what the ways of printing look like on it.
-/

namespace TrapDispatch.SelfTest

def backendRegistered : Act Verdict :=
  return if (← get).backend.isSome then .pass else .skip

def stringOutput : Act Verdict := do
  Act.printChars ['A', '\n']
  Act.print "Hello from string output test\n"
  return .pass

def hexOutput : Act Verdict := do
  Act.print "Hex numbers: "
  Act.printHex 0#32
  Act.print ", "
  Act.printHex 0xdeadbeef#32
  Act.print "\n"
  return .pass

def logStyles : Act Verdict := do
  Act.log .line ("Numbers: " ++ toString (42 : Nat) ++ " " ++ Hex.plain .lower 0xff)
  Act.log .info "This is an info message from test"
  Act.log .warn "This is a warning message from test"
  Act.log .error "This is an error message from test"
  Act.log .debug "Debug message with line info"
  return .pass

/-- Text and single bytes written to a capture of 128 bytes are found there. -/
def captureWriter : Act Verdict :=
  let written := (Capture.empty 128).puts ("PC=" ++ Hex.padded .upper 0x80000000#32)
  return .ofBool ((written.putc 0x21).contains "PC=0x80000000!")

def consoleSuite : TestSuite where
  name := "Console"
  cases := [
    ⟨"backend_registered", "Test that a diagnostic console is registered", backendRegistered⟩,
    ⟨"string_output", "Test character and string output", stringOutput⟩,
    ⟨"hex_output", "Test 8-digit hexadecimal output", hexOutput⟩,
    ⟨"format_macros", "Test formatting and log level macros", logStyles⟩,
    ⟨"console_writer", "Test fmt::Write adapter over a capture console", captureWriter⟩]

end TrapDispatch.SelfTest
