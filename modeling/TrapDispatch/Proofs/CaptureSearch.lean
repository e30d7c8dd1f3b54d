import TrapDispatch.Proofs.RingHistory

/-!
What a capture finds after any sequence of commands, however the text was split over them.

* `mem_windows_iff`: the windows of a list are the stretches of one length that occur in it.
* `Ring.Holds.search_eq`: looking for a text in a zeroed copy, window by window, finds what occurs in
  the kept bytes and never the zeros behind them.
* `ring_after`: a sequence of commands is a sequence of pushes and clears.
* `finds_newest_since_clear`: a capture is searched as the last bytes written since the last clear.
-/

namespace TrapDispatch

/-- The stretches of one length in a list, from left to right. -/
def windows {α : Type} (size : Nat) (xs : List α) : List (List α) :=
  (List.range (xs.length + 1 - size)).map fun start => (xs.drop start).take size

theorem mem_windows_iff {α : Type} {size : Nat} {window xs : List α} :
    window ∈ windows size xs ↔ window.length = size ∧ window <:+: xs := by
  constructor
  · intro member
    obtain ⟨start, within, rfl⟩ := List.mem_map.mp member
    have fits : size ≤ xs.length - start := by
      have := List.mem_range.mp within
      omega
    refine ⟨?length, ?occurs⟩
    case length => rw [List.length_take, List.length_drop, Nat.min_eq_left fits]
    case occurs => exact (List.take_prefix ..).isInfix.trans (List.drop_suffix ..).isInfix
  · rintro ⟨rfl, before, after, rfl⟩
    refine List.mem_map.mpr ⟨before.length, List.mem_range.mpr ?_, ?_⟩
    · rw [List.length_append, List.length_append]
      omega
    · rw [List.append_assoc, List.drop_left, List.take_left]

namespace Capture

/-! ### Searching a copy -/

/-- The kept bytes, copied into as many zeros as there are cells, and how many they are. -/
def scratch (c : Capture) : Nat × List Byte := c.ring.copyTo (List.replicate c.ring.capacity 0)

/-- Whether a text is among the copied bytes: nothing is always found, and anything else is compared
with the windows of its length. -/
def search (c : Capture) (s : String) : Bool :=
  let (copied, bytes) := c.scratch
  let needle := Utf8.bytes s
  needle.isEmpty || (windows needle.length (bytes.take copied)).any (· == needle)

variable {c : Capture} {kept : List Byte}

theorem contents_eq (holds : c.ring.Holds kept) : c.contents = kept := holds.toList_eq

/-- The copied bytes come first and zeros fill the rest. -/
theorem scratch_eq (holds : c.ring.Holds kept) : c.scratch =
    (kept.length, kept ++ List.replicate (c.ring.capacity - kept.length) 0) := by
  have room : kept.take (List.replicate c.ring.capacity (0 : Byte)).length = kept := by
    rw [List.length_replicate]
    exact List.take_of_length_le holds.length_le
  simp only [scratch, Ring.copyTo, holds.toList_eq, room, List.drop_replicate]

/-- **A search of the copy** finds exactly what occurs in the kept bytes. -/
theorem search_eq (holds : c.ring.Holds kept) (s : String) : c.search s = c.contains s := by
  have copied : (kept ++ List.replicate (c.ring.capacity - kept.length) 0).take kept.length = kept :=
    List.take_left
  rw [Bool.eq_iff_iff, contains_iff, contents_eq holds, search, scratch_eq holds, Bool.or_eq_true,
    List.isEmpty_iff, List.any_eq_true, copied]
  constructor
  · rintro (nothing | ⟨window, member, same⟩)
    · rw [nothing]
      exact List.nil_infix
    · rw [← eq_of_beq same]
      exact (mem_windows_iff.mp member).2
  · intro occurs
    exact .inr ⟨_, mem_windows_iff.mpr ⟨rfl, occurs⟩, BEq.rfl⟩

end Capture

/-! ### Commands as changes of the ring -/

namespace CaptureCommand

/-- What a command does to the ring of a capture. -/
def changes : CaptureCommand → List (Ring.Change Byte)
  | .putc byte => [.push byte]
  | .puts text | .write text => (Utf8.bytes text).map .push
  | .clear => [.clear]
  | .contains _ => []

/-- The bytes written and not cleared away, after one more command. -/
def remember (written : List Byte) : CaptureCommand → List Byte
  | .putc byte => written ++ [byte]
  | .puts text | .write text => written ++ Utf8.bytes text
  | .clear => []
  | .contains _ => written

/-- The bytes written since the last clear, in order. -/
def writtenSinceClear (commands : List CaptureCommand) : List Byte := commands.foldl remember []

end CaptureCommand

namespace Ring

variable {α : Type}

theorem applyAll_pushes (r : Ring α) (as : List α) : r.applyAll (as.map .push) = r.pushAll as :=
  List.foldl_map

theorem remember_pushes (pushed as : List α) :
    (as.map Change.push).foldl remember pushed = pushed ++ as := by
  induction as generalizing pushed with
  | nil => exact (List.append_nil pushed).symm
  | cons a as ih => exact (ih (pushed ++ [a])).trans (List.append_assoc ..)

end Ring

namespace Capture

/-- The capture after commands, in order. -/
def after (c : Capture) (commands : List CaptureCommand) : Capture :=
  commands.foldl (fun c command => (command.run c).1) c

theorem ring_run (c : Capture) (command : CaptureCommand) :
    (command.run c).1.ring = c.ring.applyAll command.changes := by
  cases command with
  | putc byte => rfl
  | puts text => exact (Ring.applyAll_pushes ..).symm
  | write text => exact (Ring.applyAll_pushes ..).symm
  | clear => rfl
  | contains text => rfl

theorem ring_after (c : Capture) (commands : List CaptureCommand) :
    (c.after commands).ring = c.ring.applyAll (commands.flatMap CaptureCommand.changes) := by
  induction commands generalizing c with
  | nil => rfl
  | cons command commands ih =>
      refine (ih (command.run c).1).trans ?_
      rw [ring_run, List.flatMap_cons]
      exact List.foldl_append.symm

/-- The ring is given the bytes that were written, and is cleared as often. -/
theorem remember_changes (written : List Byte) (commands : List CaptureCommand) :
    (commands.flatMap CaptureCommand.changes).foldl Ring.remember written =
      commands.foldl CaptureCommand.remember written := by
  induction commands generalizing written with
  | nil => rfl
  | cons command commands ih =>
      have first : command.changes.foldl Ring.remember written = command.remember written := by
        cases command with
        | putc byte => rfl
        | puts text => exact Ring.remember_pushes ..
        | write text => exact Ring.remember_pushes ..
        | clear => rfl
        | contains text => rfl
      rw [List.flatMap_cons, List.foldl_append, first]
      exact ih (command.remember written)

/-! ### What is found -/

/-- A capture of `n` bytes in which exactly these bytes are found. -/
structure Finds (c : Capture) (n : Nat) (kept : List Byte) : Prop where
  length_eq : c.length = kept.length
  isEmpty_iff : c.isEmpty = true ↔ kept = []
  found_iff (s : String) : c.contains s = true ↔ Utf8.bytes s <:+: kept
  /-- Behind the kept bytes the array that is searched holds zeros. -/
  padded : c.scratch = (kept.length, kept ++ List.replicate (n - kept.length) 0)
  /-- The search of that array gives the same answer. -/
  searched (s : String) : c.search s = c.contains s
  longer (s : String) (long : kept.length < (Utf8.bytes s).length) : c.contains s = false
  nothing : c.contains "" = true

theorem finds_of_holds {c : Capture} {kept : List Byte} (holds : c.ring.Holds kept) :
    c.Finds c.ring.capacity kept where
  length_eq := holds.shows.count_eq
  isEmpty_iff := holds.shows.isEmpty_iff
  found_iff s := by
    rw [contains_iff, contents_eq holds]
  padded := scratch_eq holds
  searched := search_eq holds
  longer s long := by
    rw [Bool.eq_false_iff, Ne, contains_iff, contents_eq holds]
    intro occurs
    exact absurd occurs.length_le (Nat.not_le_of_lt long)
  nothing := contains_iff.mpr List.nil_infix

theorem ofCapacity_eq_ok {n : Nat} (positive : 1 ≤ n) : Capture.ofCapacity n = .ok (empty n) := by
  unfold ofCapacity
  rw [Ring.ofCapacity_eq_ok (Nat.ne_of_gt positive)]
  rfl

/-- **Searching a capture is exact.** A capture of at least one byte can be had, and after any commands
it is searched as the last bytes written since the last clear, as many as it has cells, however they
were split over the commands: it counts them, it tells whether there are none, and a text is found
just if its bytes occur contiguously in them. The array that is searched holds them in front of
zeros, which no text is found in; nothing longer than the kept bytes is found, and the empty text
always is. -/
theorem finds_newest_since_clear {n : Nat} (positive : 1 ≤ n) :
    ∃ start, Capture.ofCapacity n = .ok start ∧ ∀ commands : List CaptureCommand,
      (start.after commands).Finds n ((CaptureCommand.writtenSinceClear commands).rtake n) := by
  refine ⟨empty n, ofCapacity_eq_ok positive, fun commands => ?_⟩
  have start : (empty n).ring.Holds (List.rtake [] (empty n).ring.capacity) := by
    rw [List.rtake_nil]
    exact Ring.holds_empty positive
  have size : ((empty n).after commands).ring.capacity = n := by
    rw [ring_after, Ring.capacity_applyAll]
    exact Ring.capacity_empty n
  have holds := start.applyAll (commands.flatMap CaptureCommand.changes)
  rw [← ring_after, remember_changes, show (empty n).ring.capacity = n from Ring.capacity_empty n]
    at holds
  have finds := finds_of_holds holds
  rwa [size] at finds

/-- A capture of four bytes that has been written around: the last byte and the first stand side by
side in its cells and are not found together, nor is a byte that was overwritten. -/
theorem finds_newest_since_clear_four :
    1 ≤ 4 ∧ ((empty 4).after [.puts "xyz", .clear, .putc 0x61, .write "bcd", .puts "ef"]).contains "fc" =
      false := by
  refine ⟨by decide, ?_⟩
  obtain ⟨start, had, after⟩ := finds_newest_since_clear (n := 4) (by decide)
  have start_eq : empty 4 = start := Except.ok.inj had
  subst start_eq
  have finds := (after [.puts "xyz", .clear, .putc 0x61, .write "bcd", .puts "ef"]).found_iff "fc"
  rw [Bool.eq_false_iff, Ne, finds]
  decide

end Capture

end TrapDispatch
