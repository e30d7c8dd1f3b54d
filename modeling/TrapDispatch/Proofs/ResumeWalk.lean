import Mathlib.Data.List.Forall2
import TrapDispatch.Proofs.Dispatch
import TrapDispatch.SelfTest.Probe

/-!
The resume address on its way through a stream of instructions.

An `Encoding` is two or four bytes wide, as its two lowest bits say. A stream is laid out in memory
half word by half word, so an instruction of four bytes may lie across two memory words, and the
dispatcher, which loads one word, then sees only its first half.

* `half_instructionAt`: at any even address the dispatcher sees the half word there, in the lower
  half of what it loads.
* `advanced_resumeAddress`: one trap moves the resume address by the width of the encoding.
* `walk_moves_past_encodings`: a run of traps moves it past as many encodings, whether the trapped
  instructions are loaded from memory or reported in a register.
-/

namespace TrapDispatch

/-! ### Encodings -/

/-- An instruction: of two bytes, with its two lowest bits not both set, or of four, with both. -/
inductive Encoding where
  | compressed (half : BitVec 16) (low : half &&& 3#16 ≠ 3#16)
  | full (word : Word) (low : word &&& 3#32 = 3#32)

namespace Encoding

def size : Encoding → Nat
  | compressed .. => 2
  | full .. => 4

/-- The half word that comes first in memory. -/
def first : Encoding → BitVec 16
  | compressed half _ => half
  | full word _ => word.setWidth 16

/-- The half words in memory order, the lower one first. -/
def halves : Encoding → List (BitVec 16)
  | compressed half _ => [half]
  | full word _ => [word.setWidth 16, (word >>> 16).setWidth 16]

/-- The half words of a stream. -/
def stream (I : List Encoding) : List (BitVec 16) := I.flatMap halves

/-- The bytes of a stream. -/
def bytes : List Encoding → Nat
  | [] => 0
  | e :: I => e.size + bytes I

theorem two_mul_length_halves (e : Encoding) : 2 * e.halves.length = e.size := by
  cases e <;> rfl

theorem bytes_append (past later : List Encoding) :
    bytes (past ++ later) = bytes past + bytes later := by
  induction past with
  | nil => exact (Nat.zero_add _).symm
  | cons e past ih =>
      rw [List.cons_append, bytes, bytes, ih, Nat.add_assoc]

theorem size_pos (e : Encoding) : 0 < e.size := by
  cases e <;> exact Nat.zero_lt_succ _

theorem two_mul_length_stream (I : List Encoding) : 2 * (stream I).length = bytes I := by
  induction I with
  | nil => rfl
  | cons e I ih =>
      have split : (stream (e :: I)).length = e.halves.length + (stream I).length :=
        List.length_append
      have width := e.two_mul_length_halves
      rw [bytes]
      omega

end Encoding

/-- The two lowest bits of a word are those of its lower half. -/
theorem Word.and_three_eq_iff (w : Word) : w &&& 3#32 = 3#32 ↔ w.setWidth 16 &&& 3#16 = 3#16 := by
  have low (n : Nat) : n &&& 3 = n % 4 := Nat.and_two_pow_sub_one_eq_mod n 2
  rw [← BitVec.toNat_inj, ← BitVec.toNat_inj, BitVec.toNat_and, BitVec.toNat_and,
    BitVec.toNat_setWidth]
  change w.toNat &&& 3 = 3 ↔ w.toNat % 2 ^ 16 &&& 3 = 3
  rw [low, low]
  omega

/-- A word whose lower half begins an encoding has its two lowest bits set exactly if the encoding
is four bytes wide. -/
theorem Encoding.and_three_eq_iff {e : Encoding} {w : Word} (begins : w.setWidth 16 = e.first) :
    w &&& 3#32 = 3#32 ↔ e.size = 4 := by
  rw [Word.and_three_eq_iff, begins]
  cases e with
  | compressed half low => exact iff_of_false low (by decide : ¬ 2 = 4)
  | full word low => exact iff_of_true ((Word.and_three_eq_iff word).mp low) rfl

/-! ### Half words in memory -/

namespace Memory

/-- The half word that an address lies in. -/
def half (m : Memory) (address : Nat) : BitVec 16 :=
  if address % 4 < 2 then (m.read (address / 4 * 4)).setWidth 16
  else (m.read (address / 4 * 4) >>> 16).setWidth 16

/-- Consecutive half words from an address upwards. -/
def halves (m : Memory) (address : Nat) : (count : Nat) → List (BitVec 16)
  | 0 => []
  | count + 1 => m.half address :: m.halves (address + 2) count

theorem getElem?_halves (m : Memory) (address count i : Nat) (h : i < count) :
    (m.halves address count)[i]? = some (m.half (address + 2 * i)) := by
  induction count generalizing address i with
  | zero => exact absurd h (Nat.not_lt_zero i)
  | succ count ih =>
      cases i with
      | zero => rfl
      | succ i =>
          have later := ih (address + 2) i (Nat.lt_of_succ_lt_succ h)
          rw [show address + 2 * (i + 1) = address + 2 + 2 * i by omega, ← later]
          rfl

end Memory

/-- What the dispatcher loads for an instruction has the half word at its address in the lower half,
wherever in its memory word the address lies. -/
theorem Hart.half_instructionAt (h : Hart) (address : Word) :
    (h.instructionAt false address).setWidth 16 = h.memory.half address.toNat := by
  unfold instructionAt Memory.half
  rw [if_neg Bool.false_ne_true]
  split <;> rfl

/-- A stream lies in memory from an address upwards. -/
def Memory.Holds (m : Memory) (a : Nat) (I : List Encoding) : Prop :=
  m.halves a (Encoding.stream I).length = Encoding.stream I

/-- An encoding of a stream begins behind those before it. -/
theorem Memory.Holds.half_eq_first {m : Memory} {a : Nat} {past later : List Encoding}
    {e : Encoding} (laid : m.Holds a (past ++ e :: later)) :
    m.half (a + Encoding.bytes past) = e.first := by
  have split : Encoding.stream (past ++ e :: later) =
      Encoding.stream past ++ Encoding.stream (e :: later) := List.flatMap_append
  have here : (Encoding.stream (e :: later))[0]? = some e.first := by cases e <;> rfl
  have inside : (Encoding.stream past).length <
      (Encoding.stream (past ++ e :: later)).length := by
    obtain ⟨nonempty, -⟩ := List.getElem?_eq_some_iff.mp here
    rw [split, List.length_append]
    omega
  have seen := m.getElem?_halves a _ _ inside
  rw [laid, split, List.getElem?_append_right (Nat.le_refl _), Nat.sub_self, here,
    Encoding.two_mul_length_stream] at seen
  exact (Option.some.inj seen).symm

namespace Dispatcher

/-! ### One trap -/

/-- What the dispatcher sees at the resume address of a hart, in the register for it or in memory,
begins with the encoding. -/
def Sees (d : Dispatcher) (h : Hart) (e : Encoding) : Prop :=
  (h.instructionAt d.config.hasMtinst h.csrs.resumeAddress).setWidth 16 = e.first

/-- One trap moves the resume address by the width of the encoding. -/
theorem advanced_resumeAddress {d : Dispatcher} {cause : Cause} {s : Machine} {e : Encoding}
    (compressed : d.config.compressedIsa = true) (moves : cause.resumesInPlace = false)
    (sees : d.Sees s.hart e) :
    (d.advanced cause s).hart.csrs.resumeAddress =
      s.hart.csrs.resumeAddress + BitVec.ofNat 32 e.size := by
  have width : d.stride s.hart = BitVec.ofNat 32 e.size := by
    have wide := Encoding.and_three_eq_iff sees
    unfold stride
    cases e with
    | compressed half low => exact if_pos ⟨compressed, mt wide.mp (by decide : ¬ 2 = 4)⟩
    | full word low => exact if_neg fun h => h.2 (wide.mpr rfl)
  unfold advanced
  rw [moves, width]
  rfl

end Dispatcher

/-! ### Signals -/

/-- A trap as the hart signals it: the cause, and the content of the register for the trapped
instruction. -/
structure Signal where
  cause : Word
  instruction : Word

namespace Signal

/-- The machine that a dispatch finds. -/
def raised (signal : Signal) (m : Machine) : Machine :=
  { m with hart :=
    (m.hart.poke .cause signal.cause).poke .trappedInstruction signal.instruction }

/-- A signal for an encoding: the cause is an exception other than the raw value 1, and the register
for the trapped instruction, if the core has one, begins with the encoding. -/
structure Fits (d : Dispatcher) (signal : Signal) (e : Encoding) : Prop where
  exception : signal.cause.getLsbD 31 = false
  ne_one : signal.cause ≠ 1#32
  reported : d.config.hasMtinst = true → signal.instruction.setWidth 16 = e.first

theorem Fits.moves {d : Dispatcher} {signal : Signal} {e : Encoding} (fits : signal.Fits d e) :
    Cause.resumesInPlace ⟨signal.cause⟩ = false := by
  rw [Bool.eq_false_iff]
  intro stays
  rcases (Cause.resumesInPlace_iff _).mp stays with interrupt | one
  · rw [fits.exception] at interrupt
    cases interrupt
  · exact fits.ne_one one

end Signal

namespace Dispatcher

/-! ### Runs of traps -/

variable (d : Dispatcher) (behaviour : Behaviour)

/-- Traps one after another. -/
def walk : List Signal → Act Unit
  | [] => pure ()
  | signal :: later => do
    modify signal.raised
    d.handleTrap behaviour
    walk later

/-- The handler that a trap calls, if any, returns with a machine, and changes neither the resume
address nor the trapped instruction nor so many half words of memory from an address upwards. -/
structure Harmless (a count : Nat) (signal : Signal) (m s : Machine) : Prop where
  returns : call behaviour (m.table.get (Cause.code ⟨signal.cause⟩)) (signal.raised m) = .ok () s
  resumeAddress : s.hart.csrs.resumeAddress = m.hart.csrs.resumeAddress
  trappedInstruction : s.hart.csrs.trappedInstruction = signal.instruction
  memory : s.hart.memory.halves a count = m.hart.memory.halves a count

/-- Every trap of a run calls a harmless handler or none. -/
def Undisturbed (a count : Nat) : List Signal → Machine → Prop
  | [], _ => True
  | signal :: later, m =>
    (∃ s, Harmless behaviour a count signal m s) ∧
      Undisturbed a count later ((d.handleTrap behaviour).outcome (signal.raised m)).2

/-- The invariant of a run: the stream lies in memory, all of it below the end of the address space,
and the resume address stands between the encodings passed and those ahead. -/
structure Between (a : Nat) (past ahead : List Encoding) (h : Hart) : Prop where
  bound : a + Encoding.bytes (past ++ ahead) ≤ 0x100000000
  laid : h.memory.Holds a (past ++ ahead)
  here : h.csrs.resumeAddress = BitVec.ofNat 32 (a + Encoding.bytes past)

variable {d behaviour} {a : Nat} {past later : List Encoding} {e : Encoding} {signal : Signal}
  {m s : Machine}

/-- After a harmless handler the dispatcher sees the encoding at the resume address, whether in
memory or in the register. -/
theorem Harmless.sees (fits : signal.Fits d e) (start : Between a past (e :: later) m.hart)
    (harmless : Harmless behaviour a (Encoding.stream (past ++ e :: later)).length signal m s) :
    d.Sees s.hart e := by
  unfold Sees
  cases source : d.config.hasMtinst with
  | true =>
      change s.hart.csrs.trappedInstruction.setWidth 16 = e.first
      rw [harmless.trappedInstruction]
      exact fits.reported source
  | false =>
      have kept : s.hart.memory.Holds a (past ++ e :: later) := harmless.memory.trans start.laid
      have below : a + Encoding.bytes past < 2 ^ 32 := by
        have bound := start.bound
        have wide := e.size_pos
        rw [Encoding.bytes_append, Encoding.bytes] at bound
        omega
      rw [Hart.half_instructionAt, harmless.resumeAddress, start.here, BitVec.toNat_ofNat,
        Nat.mod_eq_of_lt below]
      exact kept.half_eq_first

/-- One trap at an encoding of the stream returns, and the encoding joins those passed. -/
theorem handleTrap_passes_encoding (compressed : d.config.compressedIsa = true)
    (fits : signal.Fits d e) (start : Between a past (e :: later) m.hart)
    (harmless : Harmless behaviour a (Encoding.stream (past ++ e :: later)).length signal m s) :
    ∃ t, d.handleTrap behaviour (signal.raised m) = .ok () t ∧
      Between a (past ++ [e]) later t.hart := by
  have joined : past ++ [e] ++ later = past ++ e :: later := (List.append_cons ..).symm
  refine ⟨d.advanced ⟨signal.cause⟩ s, ?_, ?bound, ?laid, ?here⟩
  · have dispatched := d.handleTrap_apply behaviour (signal.raised m)
    rw [show (signal.raised m).hart.csrs.cause = signal.cause from rfl,
      show (signal.raised m).table = m.table from rfl, harmless.returns] at dispatched
    exact dispatched.trans (d.advance_apply _ s)
  case bound =>
    rw [joined]
    exact start.bound
  case laid =>
    rw [joined, advanced_memory]
    exact harmless.memory.trans start.laid
  case here =>
    rw [advanced_resumeAddress compressed fits.moves (harmless.sees fits start),
      harmless.resumeAddress, start.here, ← BitVec.ofNat_add, Encoding.bytes_append, Nat.add_assoc]
    rfl

/-- A run of traps returns, and the encodings for which there were signals join those passed. The
induction is on the encodings ahead. -/
theorem walk_passes_encodings (compressed : d.config.compressedIsa = true) {ahead : List Encoding}
    {signals : List Signal} (start : Between a past ahead m.hart)
    (fits : List.Forall₂ (Signal.Fits d) signals (ahead.take signals.length))
    (undisturbed : d.Undisturbed behaviour a (Encoding.stream (past ++ ahead)).length signals m) :
    ∃ t, d.walk behaviour signals m = .ok () t ∧
      Between a (past ++ ahead.take signals.length) (ahead.drop signals.length) t.hart := by
  induction ahead generalizing signals past m with
  | nil =>
      rw [List.take_nil] at fits ⊢
      cases fits
      rw [List.append_nil]
      exact ⟨m, rfl, start⟩
  | cons e ahead ih =>
      cases signals with
      | nil =>
          rw [List.length_nil, List.take_zero, List.append_nil]
          exact ⟨m, rfl, start⟩
      | cons signal signals =>
          obtain ⟨⟨s, harmless⟩, undisturbed⟩ := undisturbed
          cases fits with
          | cons first fits =>
          obtain ⟨t, trapped, middle⟩ := handleTrap_passes_encoding compressed first start harmless
          rw [Act.outcome_of_ok trapped, List.append_cons] at undisturbed
          obtain ⟨u, walked, final⟩ := ih middle fits undisturbed
          refine ⟨u, ?_, ?_⟩
          · have raised := Act.modify_apply signal.raised m
            exact (Act.bind_of_ok raised _).trans ((Act.bind_of_ok trapped _).trans walked)
          · rw [List.length_cons, List.take_succ_cons, List.drop_succ_cons, List.append_cons]
            exact final

/-- **The resume address walks along a stream of instructions.** On a core that may run two-byte
instructions, let encodings of both widths lie in memory one after another from any address, all of
them below the end of the address space, and let the resume address be that of the first. Let traps
follow one another, each an exception other than the raw value 1 that calls no handler or one that
returns and touches neither the resume address, the trapped instruction nor the stream. On a core
that reports the trapped instruction, let it report the encoding at the resume address. Then all
traps return, and the resume address has moved past one encoding for each of them. -/
theorem walk_moves_past_encodings (d : Dispatcher) (behaviour : Behaviour) (a : Nat)
    (I : List Encoding) (signals : List Signal) (m : Machine)
    (compressed : d.config.compressedIsa = true) (bound : a + Encoding.bytes I ≤ 0x100000000)
    (laid : m.hart.memory.Holds a I)
    (start : m.hart.csrs.resumeAddress = BitVec.ofNat 32 a)
    (fits : List.Forall₂ (Signal.Fits d) signals (I.take signals.length))
    (undisturbed : d.Undisturbed behaviour a (Encoding.stream I).length signals m) :
    ∃ t, d.walk behaviour signals m = .ok () t ∧ t.hart.csrs.resumeAddress =
      BitVec.ofNat 32 (a + Encoding.bytes (I.take signals.length)) := by
  have between : Between a [] I m.hart := ⟨bound, laid, start⟩
  obtain ⟨t, walked, final⟩ := walk_passes_encodings compressed between fits undisturbed
  exact ⟨t, walked, final.here⟩

/-- A breakpoint across two memory words, a two-byte instruction and an environment call. -/
def mixedStream : List Encoding :=
  [.full 0x00100073#32 (by decide), .compressed 0x0001#16 (by decide),
    .full 0x00000073#32 (by decide)]

/-- A hart in front of that stream, which begins in the upper half of a memory word; breakpoints are
counted and nothing else is handled. -/
def mixedMachine : Machine :=
  .start ⟨{ Csrs.initial 0#32 with resumeAddress := 0x1002#32 },
      Memory.empty.writeWords 0x1000 [0x00730000#32, 0x00010010#32, 0x00000073#32], 0⟩
    (VectorTable.empty.install .breakpoint (some (.probe .countHit))) false

def mixedDispatcher : Dispatcher :=
  ⟨.readModifyWrite, { Config.default with compressedIsa := true, hasMtinst := false }⟩

/-- The causes of the three instructions. -/
def mixedSignals : List Signal := [⟨3#32, 0#32⟩, ⟨2#32, 0#32⟩, ⟨11#32, 0#32⟩]

theorem walk_moves_past_mixed_stream :
    ∃ t, mixedDispatcher.walk (Handler.behaviour mixedDispatcher fun _ => Act.halt) mixedSignals
        mixedMachine = .ok () t ∧ t.hart.csrs.resumeAddress = 0x100c#32 := by
  refine walk_moves_past_encodings mixedDispatcher _ 0x1002 mixedStream mixedSignals mixedMachine
    rfl (by decide) rfl rfl ?fits ?undisturbed
  case fits =>
    exact .cons ⟨by decide, by decide, nofun⟩ (.cons ⟨by decide, by decide, nofun⟩
      (.cons ⟨by decide, by decide, nofun⟩ .nil))
  case undisturbed =>
    exact ⟨⟨_, rfl, rfl, rfl, rfl⟩, ⟨_, rfl, rfl, rfl, rfl⟩, ⟨_, rfl, rfl, rfl, rfl⟩, trivial⟩

end Dispatcher

end TrapDispatch
