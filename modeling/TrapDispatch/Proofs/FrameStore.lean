import TrapDispatch.Proofs.SavedRegisters
import TrapDispatch.Proofs.TableHistory

/-!
The frame of an interrupted program as a store of words, wherever it lies and whatever was there.

* `Frame.slot_lt`: a register number selects a slot of the frame, however many slots there are.
* `perform_access_eq`: one access, as a function of the machine: it answers a word of the frame or
  changes one, and nothing else.
* `perform_accesses_eq`: accesses in a row, by induction: a slot holds what was put there last.
* `frame_is_store`: the three together, and what happens to accesses to a frame that is not aligned.
-/

namespace TrapDispatch

/-! ### Slots -/

/-- A register number selects a slot of the frame, however many slots there are. -/
theorem Frame.slot_lt (register : Word) {registers : Nat} (positive : 1 ≤ registers) :
    slot register registers < registers := by
  have inside := slotOffset_lt register positive
  rw [slotOffset_eq_slot] at inside
  omega

/-! ### Accesses to a memory -/

namespace FrameAccess

/-- What the access answers, when the frame starts at `base`. -/
def answer (registers base : Nat) (memory : Memory) : FrameAccess → Reply
  | .get _ register => .word (memory.read (base + 4 * Frame.slot register registers))
  | .put _ _ _ => .nothing

/-- The memory after the access. -/
def store (registers base : Nat) (memory : Memory) : FrameAccess → Memory
  | .get _ _ => memory
  | .put _ register value => memory.write (base + 4 * Frame.slot register registers) value

/-- What accesses in a row answer, each of them after those before it. -/
def answers (registers base : Nat) : Memory → List FrameAccess → List Reply
  | _, [] => []
  | memory, a :: rest =>
    a.answer registers base memory :: answers registers base (a.store registers base memory) rest

/-- What the access puts into a slot of the frame. -/
def puts (registers slot : Nat) : FrameAccess → Option Word
  | .get _ _ => none
  | .put _ register value => if Frame.slot register registers = slot then some value else none

/-- What the latest of some accesses to put anything into a slot put there. -/
def latest (registers slot : Nat) (past : List FrameAccess) : Option Word :=
  past.reverse.findSome? (puts registers slot)

variable {registers base : Nat} {memory : Memory}

theorem read_store_slot (a : FrameAccess) (slot : Nat) :
    (a.store registers base memory).read (base + 4 * slot) =
      (a.puts registers slot).getD (memory.read (base + 4 * slot)) := by
  cases a with
  | get via register => rfl
  | put via register value =>
      change (if base + 4 * slot = base + 4 * Frame.slot register registers then value else _) =
        (if Frame.slot register registers = slot then some value else none).getD _
      by_cases same : Frame.slot register registers = slot
      · rw [if_pos same, if_pos (by rw [same])]
        rfl
      · rw [if_neg same, if_neg (by omega)]
        rfl

/-- An access leaves alone whatever is no slot of the frame. -/
theorem read_store_outside (positive : 1 ≤ registers) (a : FrameAccess) {address : Nat}
    (outside : ∀ i < registers, address ≠ base + 4 * i) :
    (a.store registers base memory).read address = memory.read address := by
  cases a with
  | get via register => rfl
  | put via register value => exact if_neg (outside _ (Frame.slot_lt register positive))

/-- A slot holds what was put there last, or else what it held before. -/
theorem read_stores_slot (accesses : List FrameAccess) (slot : Nat) :
    (accesses.foldl (store registers base) memory).read (base + 4 * slot) =
      (latest registers slot accesses).getD (memory.read (base + 4 * slot)) := by
  rw [latest, ← foldl_getD]
  induction accesses generalizing memory with
  | nil => rfl
  | cons a rest ih => rw [List.foldl_cons, List.foldl_cons, ih, read_store_slot]

theorem read_stores_outside (positive : 1 ≤ registers) (accesses : List FrameAccess) {address : Nat}
    (outside : ∀ i < registers, address ≠ base + 4 * i) :
    (accesses.foldl (store registers base) memory).read address = memory.read address := by
  induction accesses generalizing memory with
  | nil => rfl
  | cons a rest ih => rw [List.foldl_cons, ih, read_store_outside positive a outside]

theorem getElem?_answers (accesses : List FrameAccess) (i : Nat) :
    (answers registers base memory accesses)[i]? =
      accesses[i]?.map (answer registers base ((accesses.take i).foldl (store registers base) memory)) := by
  induction accesses generalizing memory i with
  | nil => rfl
  | cons a rest ih =>
      cases i with
      | zero => rfl
      | succ i => exact ih i

/-- What the latest put of a register number left there, counting the number modulo the size of the
frame. -/
def latestPut (registers : Nat) (register : Word) (past : List FrameAccess) : Option Word :=
  past.reverse.findSome? fun
    | .get _ _ => none
    | .put _ other value =>
      if other.toNat % registers = register.toNat % registers then some value else none

/-- In a frame whose size is a power of two, the puts to the slot of a register number are those whose
number leaves the same remainder. -/
theorem latest_slot_eq {k : Nat} (power : registers = 2 ^ k) (register : Word)
    (past : List FrameAccess) :
    latest registers (Frame.slot register registers) past = latestPut registers register past := by
  have each : puts registers (Frame.slot register registers) = fun
      | .get _ _ => none
      | .put _ other value =>
        if other.toNat % registers = register.toNat % registers then some value else none := by
    funext a
    cases a with
    | get via other => rfl
    | put via other value => rw [puts, Frame.slot_eq_mod power, Frame.slot_eq_mod power]
  rw [latest, each]
  rfl

/-- How an access at an unaligned address is refused. -/
def refusal (address : Nat) : FrameAccess → Fault
  | .get _ _ => .unalignedLoad address
  | .put _ _ _ => .unalignedStore address

/-- The register number of an access. -/
def register : FrameAccess → Word
  | .get _ register | .put _ register _ => register

end FrameAccess

/-! ### Accesses of a session -/

/-- The machine with another memory on its hart and all else as it is. -/
def Machine.withMemory (m : Machine) (memory : Memory) : Machine :=
  { m with hart := { m.hart with memory } }

namespace Scenario

open FrameAccess

variable (s : Scenario) (behaviour : Behaviour) (m : Machine)

/-- **One access.** An aligned frame answers a word or has one changed, and nothing else changes. A
frame that is not aligned is refused before anything changes. -/
theorem perform_access_eq (a : FrameAccess) :
    s.perform behaviour a.op m =
      if m.hart.csrs.scratch.toNat % 4 = 0 then
        .ok (a.answer s.config.frameRegisters m.hart.csrs.scratch.toNat m.hart.memory)
          (m.withMemory (a.store s.config.frameRegisters m.hart.csrs.scratch.toNat m.hart.memory))
      else .error (.fault (a.refusal (m.hart.csrs.scratch.toNat +
        Frame.slotOffset a.register s.config.frameRegisters))) m := by
  cases a with
  | get via register =>
      have got := (s.dispatcher via).contextGet_apply register m
      rw [Dispatcher.slotAddress, Frame.slotOffset_eq_slot] at got
      split at got
      · rename_i aligned
        rw [if_pos aligned]
        exact Act.bind_of_ok got _
      · rename_i unaligned
        rw [if_neg unaligned, Frame.slotOffset_eq_slot]
        exact Act.bind_of_error got _
  | put via register value =>
      have put := (s.dispatcher via).contextPut_apply register value m
      rw [Dispatcher.slotAddress, Frame.slotOffset_eq_slot] at put
      split at put
      · rename_i aligned
        rw [if_pos aligned]
        exact Act.bind_of_ok put _
      · rename_i unaligned
        rw [if_neg unaligned, Frame.slotOffset_eq_slot]
        exact Act.bind_of_error put _

variable {m}

/-- **Accesses in a row**, by induction: no access moves the frame, so each finds it where it was. -/
theorem perform_accesses_eq (aligned : m.hart.csrs.scratch.toNat % 4 = 0)
    (accesses : List FrameAccess) :
    (accesses.mapM fun a => s.perform behaviour a.op) m =
      .ok (answers s.config.frameRegisters m.hart.csrs.scratch.toNat m.hart.memory accesses)
        (m.withMemory (accesses.foldl
          (store s.config.frameRegisters m.hart.csrs.scratch.toNat) m.hart.memory)) := by
  induction accesses generalizing m with
  | nil => rfl
  | cons a rest ih =>
      have first := (s.perform_access_eq behaviour m a).trans (if_pos aligned)
      have later := ih (m := m.withMemory
        (a.store s.config.frameRegisters m.hart.csrs.scratch.toNat m.hart.memory)) aligned
      rw [List.mapM_cons, Act.bind_of_ok first, Act.bind_of_ok later]
      rfl

/-- **The frame of an interrupted program is a store of words.** Let the frame have at least one slot
and start at the scratch register, without wrapping. Every access goes to the word of one of its
slots. If the frame is aligned, accesses by any register numbers return, in any number: no other word
changes, nor does anything but the memory, and when the number of slots is a power of two, a get
answers what the latest put left whose number is the same modulo that, or else what the word held at
the start. If it is not aligned, every access stops and changes nothing. -/
theorem frame_is_store (s : Scenario) (behaviour : Behaviour) (m : Machine)
    (positive : 1 ≤ s.config.frameRegisters) :
    let registers := s.config.frameRegisters
    let base := m.hart.csrs.scratch.toNat
    (∀ (via : BitAccess) (register : Word) (memory : Memory), ∃ i < registers,
      (s.dispatcher via).frameSlot register (m.withMemory memory) =
        .ok (base + 4 * i) (m.withMemory memory) ∧
      ∀ k, registers = 2 ^ k → i = register.toNat % registers) ∧
    (base % 4 = 0 → ∀ accesses : List FrameAccess, ∃ (replies : List Reply) (memory : Memory),
      (accesses.mapM fun a => s.perform behaviour a.op) m = .ok replies (m.withMemory memory) ∧
      (∀ address, (∀ i < registers, address ≠ base + 4 * i) →
        memory.read address = m.hart.memory.read address) ∧
      ∀ k, registers = 2 ^ k → ∀ (i : Nat) (via : BitAccess) (register : Word),
        accesses[i]? = some (.get via register) →
          replies[i]? = some (.word ((latestPut registers register (accesses.take i)).getD
            (m.hart.memory.read (base + 4 * (register.toNat % registers)))))) ∧
    (base % 4 ≠ 0 → ∀ a : FrameAccess, s.perform behaviour a.op m =
      .error (.fault (a.refusal (base + Frame.slotOffset a.register registers))) m) := by
  refine ⟨?inside, ?store, ?refused⟩
  case inside =>
    intro via register memory
    refine ⟨Frame.slot register s.config.frameRegisters, Frame.slot_lt register positive, ?_,
      fun k power => Frame.slot_eq_mod power register⟩
    rw [← Frame.slotOffset_eq_slot]
    rfl
  case store =>
    intro aligned accesses
    refine ⟨_, _, s.perform_accesses_eq behaviour aligned accesses,
      fun address outside => read_stores_outside positive accesses outside, ?_⟩
    intro k power i via register asked
    rw [getElem?_answers, asked, Option.map_some, answer, read_stores_slot, latest_slot_eq power,
      Frame.slot_eq_mod power]
  case refused =>
    intro unaligned a
    exact (s.perform_access_eq behaviour m a).trans (if_neg unaligned)

/-! A frame that reaches beyond the last address of 32 bits. Register 33 is register 1, and the slot of
register 31 lies at an address that no word can hold. -/

def highFrame : Machine := .start
  { Hart.initial 0#32 with csrs := { Csrs.initial 0#32 with scratch := 0xfffffff0#32 } } .empty true

def highAccesses : List FrameAccess :=
  [.put .readModifyWrite 33#32 5#32, .get .bitInstructions 1#32, .put .bitInstructions 31#32 7#32,
    .get .readModifyWrite 3#32, .get .readModifyWrite 0xffffffff#32]

def plainScenario : Scenario := ⟨Config.default, 0x80000000, fun _ => []⟩

theorem frame_is_store_high :
    1 ≤ plainScenario.config.frameRegisters ∧ highFrame.hart.csrs.scratch.toNat % 4 = 0 ∧
      plainScenario.config.frameRegisters = 2 ^ 5 ∧
      ∃ (replies : List Reply) (memory : Memory),
        (highAccesses.mapM fun a => plainScenario.perform plainScenario.behaviour a.op) highFrame =
          .ok replies (highFrame.withMemory memory) ∧
        replies[1]? = some (.word 5#32) ∧ replies[3]? = some (.word 0#32) ∧
        replies[4]? = some (.word 7#32) := by
  have aligned : highFrame.hart.csrs.scratch.toNat % 4 = 0 := by decide
  have power : plainScenario.config.frameRegisters = 2 ^ 5 := by decide
  obtain ⟨replies, memory, ran, -, answered⟩ :=
    (frame_is_store plainScenario plainScenario.behaviour highFrame (by decide)).2.1 aligned
      highAccesses
  have answered := answered 5 power
  exact ⟨by decide, aligned, power, replies, memory, ran, answered 1 .bitInstructions 1#32 rfl,
    answered 3 .readModifyWrite 3#32 rfl, answered 4 .readModifyWrite 0xffffffff#32 rfl⟩

end Scenario

end TrapDispatch
