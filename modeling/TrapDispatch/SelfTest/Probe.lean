import TrapDispatch.Report

/-!
What handlers do. The debug handler reports, a probe of the self tests takes its notes on the test
bench, and what a scripted handler does is up to the session.
-/

namespace TrapDispatch

namespace Act

def modifyBench (f : Bench → Bench) : Act Unit := modify fun m => { m with bench := f m.bench }

/-- Count a call of a probe. -/
def hit : Act Unit := modifyBench fun b => { b with hits := b.hits + 1 }

def clearHits : Act Unit := modifyBench fun b => { b with hits := 0 }

def hits : Act Nat := return (← get).bench.hits

/-- Let the timer ask for no interrupt. -/
def disarmTimer : Act Unit := modifyBench fun b => { b with deadline := BitVec.allOnes 64 }

end Act

/-- The register number of `t2`. -/
def registerT2 : Word := 7#32

/-- What a probe does on a hart with the given dispatcher. -/
def Probe.run (d : Dispatcher) : Probe → Act Unit
  | .countHit => Act.hit
  | .reportToCapture => do
    Act.hit
    d.debugReport (some .capture)
  | .bumpA0 => do
    let zero ← d.contextGet 0#32
    let stack ← d.contextGet (BitVec.ofNat 32 Frame.stackPointer)
    let t2 ← d.contextGet registerT2
    Act.modifyBench fun b => { b with seenZero := zero, seenStack := stack, seenT2 := t2 }
    let a0 ← d.contextGet (BitVec.ofNat 32 Frame.a0)
    d.contextPut (BitVec.ofNat 32 Frame.a0) (a0 + 1#32)
  | .onTimer => do
    Act.disarmTimer
    Act.hit

/-- What the handlers do, given what the scripted ones do. -/
def Handler.behaviour (d : Dispatcher) (scripts : Nat → Act Unit) : Behaviour
  | .debug => d.debugHandler
  | .script number => scripts number
  | .probe which => which.run d

end TrapDispatch
