import Mathlib.Algebra.Group.Nat.Defs
import TrapDispatch.Scenario
import TrapDispatch.Proofs.Dispatch

/-!
Access to the saved registers of an interrupted program.

* `contextGet_apply`, `contextPut_apply`: one access, as a function of the machine. Only an
  unaligned scratch register stops it, and then nothing changes.
* `Saved`: the frame of the interrupted program lies where the scratch register points.
* `perform_access`: one access to a saved frame reads or changes exactly the register that is meant
  and keeps the frame saved.
* `performAll_accesses`: a scripted handler that makes any number of accesses sees and leaves the
  registers that the same accesses see and leave on the bare list of registers.
-/

namespace TrapDispatch

/-! ### Slots of a frame -/

/-- The slot that a register number selects: the number is masked by one less than there are slots. -/
def Frame.slot (register : Word) (registers : Nat) : Nat := register.toNat &&& (registers - 1)

theorem Frame.slotOffset_eq_slot (register : Word) (registers : Nat) :
    Frame.slotOffset register registers = 4 * Frame.slot register registers := Nat.mul_comm ..

/-- In a frame whose size is a power of two the register number counts modulo that. -/
theorem Frame.slot_eq_mod {registers k : Nat} (power : registers = 2 ^ k) (register : Word) :
    Frame.slot register registers = register.toNat % registers := by
  rw [Frame.slot, power]
  exact Nat.and_two_pow_sub_one_eq_mod ..

/-- In a frame of 16 or 32 slots it does. -/
theorem Frame.slotOffset_eq {registers : Nat} (width : registers = 16 ∨ registers = 32)
    (register : Word) : Frame.slotOffset register registers = 4 * (register.toNat % registers) := by
  rw [Frame.slotOffset_eq_slot]
  rcases width with sixteen | all
  · rw [Frame.slot_eq_mod (k := 4) sixteen]
  · rw [Frame.slot_eq_mod (k := 5) all]

/-- The register that a number selects in a frame of so many slots. -/
def Frame.select (x : Frame) (registers : Nat) (register : Word) : Word :=
  x[register.toNat % registers]?.getD 0#32

/-- A frame with another value in the register that a number selects. -/
def Frame.change (x : Frame) (registers : Nat) (register value : Word) : Frame :=
  x.setIfInBounds (register.toNat % registers) value

/-- Changing the word of one slot changes that register of the frame, if there is one. -/
theorem Memory.frame_write (m : Memory) (base i : Nat) (value : Word) :
    (m.write (base + 4 * i) value).frame base = (m.frame base).setIfInBounds i value := by
  apply Vector.ext
  intro j hj
  simp only [Memory.frame, Vector.getElem_ofFn, Memory.read_write, Vector.getElem_setIfInBounds]
  by_cases same : i = j
  · rw [if_pos (by rw [same]), if_pos same]
  · rw [if_neg (by omega), if_neg same]

namespace Dispatcher

/-! ### One access -/

/-- Where a register of the interrupted program is kept. -/
def slotAddress (d : Dispatcher) (h : Hart) (register : Word) : Nat :=
  h.csrs.scratch.toNat + Frame.slotOffset register d.config.frameRegisters

/-- A slot is aligned exactly when the frame is. -/
theorem slotAddress_mod_four (d : Dispatcher) (h : Hart) (register : Word) :
    d.slotAddress h register % 4 = h.csrs.scratch.toNat % 4 := by
  unfold slotAddress Frame.slotOffset
  omega

theorem contextGet_apply (d : Dispatcher) (register : Word) (m : Machine) :
    d.contextGet register m =
      if m.hart.csrs.scratch.toNat % 4 = 0 then
        .ok (m.hart.memory.read (d.slotAddress m.hart register)) m
      else .error (.fault (.unalignedLoad (d.slotAddress m.hart register))) m := by
  rw [← d.slotAddress_mod_four m.hart register]
  exact Act.load_apply (d.slotAddress m.hart register) m

theorem contextPut_apply (d : Dispatcher) (register value : Word) (m : Machine) :
    d.contextPut register value m =
      if m.hart.csrs.scratch.toNat % 4 = 0 then
        .ok () { m with hart := { m.hart with
          memory := m.hart.memory.write (d.slotAddress m.hart register) value } }
      else .error (.fault (.unalignedStore (d.slotAddress m.hart register))) m := by
  rw [← d.slotAddress_mod_four m.hart register]
  exact Act.store_apply (d.slotAddress m.hart register) value m

end Dispatcher

/-! ### A saved frame -/

/-- The registers `x` of the interrupted program are kept at an aligned base, and the scratch
register points there. -/
structure Saved (base : Nat) (x : Frame) (m : Machine) : Prop where
  scratch : m.hart.csrs.scratch.toNat = base
  aligned : base % 4 = 0
  frame : m.hart.memory.frame base = x

namespace Saved

variable {d : Dispatcher} {base : Nat} {x : Frame} {m : Machine}

theorem slotAddress_eq (saved : Saved base x m)
    (width : d.config.frameRegisters = 16 ∨ d.config.frameRegisters = 32) (register : Word) :
    d.slotAddress m.hart register = base + 4 * (register.toNat % d.config.frameRegisters) := by
  unfold Dispatcher.slotAddress
  rw [saved.scratch, Frame.slotOffset_eq width]

/-- Reading a saved register changes nothing. -/
theorem contextGet_apply (saved : Saved base x m)
    (width : d.config.frameRegisters = 16 ∨ d.config.frameRegisters = 32) (register : Word) :
    d.contextGet register m = .ok (x.select d.config.frameRegisters register) m := by
  have aligned : m.hart.csrs.scratch.toNat % 4 = 0 := by rw [saved.scratch, saved.aligned]
  have inside : register.toNat % d.config.frameRegisters < 32 := by
    rcases width with h | h <;> rw [h] <;> omega
  rw [Dispatcher.contextGet_apply, if_pos aligned, saved.slotAddress_eq width, Frame.select,
    Vector.getElem?_eq_getElem inside, Option.getD_some]
  simp only [← saved.frame, Memory.frame, Vector.getElem_ofFn]

/-- Changing a saved register changes nothing else, and the frame stays saved. -/
theorem contextPut_apply (saved : Saved base x m)
    (width : d.config.frameRegisters = 16 ∨ d.config.frameRegisters = 32)
    (register value : Word) :
    ∃ memory, d.contextPut register value m =
        .ok () { m with hart := { m.hart with memory } } ∧
      Saved base (x.change d.config.frameRegisters register value)
        { m with hart := { m.hart with memory } } := by
  have aligned : m.hart.csrs.scratch.toNat % 4 = 0 := by rw [saved.scratch, saved.aligned]
  refine ⟨_, (d.contextPut_apply register value m).trans (if_pos aligned),
    saved.scratch, saved.aligned, ?_⟩
  change (m.hart.memory.write _ value).frame base = _
  rw [saved.slotAddress_eq width, Memory.frame_write, saved.frame, Frame.change]

end Saved

/-! ### Handlers made of accesses -/

/-- One access of a handler to the registers of the interrupted program. -/
inductive FrameAccess where
  | get (via : BitAccess) (register : Word)
  | put (via : BitAccess) (register value : Word)

namespace FrameAccess

/-- The operation that makes the access. -/
def op : FrameAccess → Op
  | .get via register => .contextGet via register
  | .put via register value => .contextPut via register value

/-- What the access answers, when the registers are `x`. -/
def reply (registers : Nat) (x : Frame) : FrameAccess → Reply
  | .get _ register => .word (x.select registers register)
  | .put _ _ _ => .nothing

/-- The registers after the access. -/
def effect (registers : Nat) (x : Frame) : FrameAccess → Frame
  | .get _ _ => x
  | .put _ register value => x.change registers register value

/-- What accesses in a row answer, each of them after those before it. -/
def replies (registers : Nat) : Frame → List FrameAccess → List Reply
  | _, [] => []
  | x, a :: rest => a.reply registers x :: replies registers (a.effect registers x) rest

end FrameAccess

/-- The reply of an operation is added to the last of the notes. -/
theorem Act.noteReply_apply {m : Machine} {past : List Visit} {number : Nat}
    {noted : List Reply} (visits : m.visits = past ++ [⟨number, noted⟩]) (reply : Reply) :
    Act.noteReply past.length reply m =
      .ok () { m with visits := past ++ [⟨number, noted ++ [reply]⟩] } := by
  change EStateM.Result.ok () { m with visits := m.visits.modify past.length _ } = _
  rw [visits]
  congr 2
  clear visits
  induction past with
  | nil => rfl
  | cons v rest ih =>
      rw [List.cons_append, List.length_cons, List.modify_succ_cons, ih, List.cons_append]

namespace Scenario

variable {s : Scenario} {base : Nat} {x : Frame} {m : Machine}
  (width : s.config.frameRegisters = 16 ∨ s.config.frameRegisters = 32)

include width

/-- One access to a saved frame answers and changes what is meant, and notes nothing. -/
theorem perform_access (behaviour : Behaviour) (a : FrameAccess) (saved : Saved base x m) :
    ∃ m', s.perform behaviour a.op m = .ok (a.reply s.config.frameRegisters x) m' ∧
      Saved base (a.effect s.config.frameRegisters x) m' ∧ m'.visits = m.visits := by
  cases a with
  | get via register =>
      refine ⟨m, ?_, saved, rfl⟩
      exact Act.bind_of_ok (saved.contextGet_apply width register) _
  | put via register value =>
      obtain ⟨memory, stored, kept⟩ :=
        saved.contextPut_apply (d := s.dispatcher via) width register value
      refine ⟨_, ?_, kept, rfl⟩
      exact Act.bind_of_ok stored _

/-- **A handler of accesses, whatever their number.** It runs to its end, notes the answers that the
accesses give on the bare registers, and leaves the registers that they leave there. -/
theorem performAll_accesses (behaviour : Behaviour) (past : List Visit) (number : Nat)
    (accesses : List FrameAccess) (noted : List Reply) (saved : Saved base x m)
    (visits : m.visits = past ++ [⟨number, noted⟩]) :
    ∃ m', s.performAll behaviour past.length (accesses.map FrameAccess.op) m = .ok () m' ∧
      Saved base (accesses.foldl (FrameAccess.effect s.config.frameRegisters) x) m' ∧
      m'.visits = past ++
        [⟨number, noted ++ FrameAccess.replies s.config.frameRegisters x accesses⟩] := by
  induction accesses generalizing x m noted with
  | nil =>
      refine ⟨m, rfl, saved, ?_⟩
      rw [visits, FrameAccess.replies, List.append_nil]
  | cons a rest ih =>
      obtain ⟨m₁, performed, saved₁, visits₁⟩ := perform_access width behaviour a saved
      -- The reply is noted before the next access, which changes nothing but the notes.
      obtain ⟨m₂, ran, saved₂, visits₂⟩ := ih (noted ++ [a.reply s.config.frameRegisters x])
        (m := { m₁ with
          visits := past ++ [⟨number, noted ++ [a.reply s.config.frameRegisters x]⟩] })
        ⟨saved₁.scratch, saved₁.aligned, saved₁.frame⟩ rfl
      refine ⟨m₂, ?_, saved₂, ?_⟩
      · have noted := Act.noteReply_apply (visits₁.trans visits) (a.reply s.config.frameRegisters x)
        exact (Act.bind_of_ok performed _).trans ((Act.bind_of_ok noted _).trans ran)
      · rw [visits₂, FrameAccess.replies, List.append_assoc]
        rfl

end Scenario

end TrapDispatch
